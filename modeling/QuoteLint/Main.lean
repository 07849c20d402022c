import QuoteLint.Editor.Frame
import QuoteLint.Editor.Server

/-! The two programs: the linter, and the language server under the name `tmpl-ls`. -/

namespace QuoteLint

def systemText : IO.Error → String
  | .permissionDenied _ code details => details ++ " (os error " ++ toString code ++ ")"
  | .noFileOrDirectory _ code details => details ++ " (os error " ++ toString code ++ ")"
  | .inappropriateType _ code details => details ++ " (os error " ++ toString code ++ ")"
  | .resourceExhausted _ code details => details ++ " (os error " ++ toString code ++ ")"
  | .otherError code details => details ++ " (os error " ++ toString code ++ ")"
  | error => toString error

def orFault {α : Type} (action : IO α) : IO (Except String α) := do
  try return .ok (← action)
  catch error => return .error (systemText error)

def readContents (path : String) : IO (Except String ByteArray) :=
  orFault (IO.FS.readBinFile path)

/-- What stands on disk under a path, with files whose contents have not been read yet. Links below
a directory stay links, and lead to what they lead to on disk. -/
partial def readShape (path : String) : IO (Option Node) := do
  match ← orFault (do return (← (← IO.FS.realPath path).metadata).type) with
  | .ok .file => return some (.file (.error "not read"))
  | .ok .dir =>
    match ← orFault (do return (← (← IO.FS.realPath path).readDir)) with
    | .error fault => return some (.directory [] (some fault))
    | .ok listed =>
      let mut entries := []
      for entry in listed do
        let below := entry.path.toString
        let name := Name.ofText entry.fileName
        match ← orFault (do return (← entry.path.symlinkMetadata).type) with
        | .ok .symlink =>
          let target := (← orFault (do return (← IO.FS.realPath below).toString)).toOption
          entries := (name, .link (.ofText (target.getD below))) :: entries
        | .ok _ =>
          if let some node ← readShape below then entries := (name, node) :: entries
        | .error _ => pure ()
      return some (.ofEntries entries.reverse)
  | _ => return none

def place (tree : FileTree) (path : Path) (node : Node) : FileTree :=
  let above := path.ancestors.reverse.dropLast.filter fun ancestor => !ancestor.bytes.isEmpty
  (above.foldl FileTree.makeDirectory tree).make path node

def addShape (tree : FileTree) (path : Path) : IO FileTree := do
  match ← readShape path.display with
  | some node => return place tree path node
  | none => return tree

def fillFile (tree : FileTree) (path : Path) : IO FileTree := do
  return tree.make path (.file (← readContents path.display))

def addSettings (tree : FileTree) (path : Path) : IO FileTree := do
  let tree ← addShape tree path
  if tree.isFile path then fillFile tree path else return tree

def readFiles (tree : FileTree) (config : Config) : IO (FileTree × List Path) := do
  let tree ← config.paths.foldlM addShape tree
  let files := (collectFiles tree config.paths config.extensions).toOption.getD []
  return (← files.foldlM fillFile tree, files)

def userFile? : IO (Option Path) := do
  let directory ← match ← IO.getEnv "XDG_CONFIG_HOME" with
    | some directory =>
      if (Path.ofText directory).isAbsolute then pure (some directory)
      else pure ((← IO.getEnv "HOME").map (· ++ "/.config"))
    | none => pure ((← IO.getEnv "HOME").map (· ++ "/.config"))
  return directory.map fun directory => (Path.ofText directory).join "tmpl-lint/config.toml"

def readSettings (start : Path) (user explicit : Option Path) : IO FileTree := do
  let current := (start.segments.filter (· != [])).map Name.mk
  let tree : FileTree := ⟨Node.emptyDirectory.put .emptyDirectory current, current⟩
  let candidates := start.ancestors.map (·.join SettingsFile.projectFileName)
  (candidates ++ user.toList ++ explicit.toList).foldlM addSettings tree

def printLog (log : List LogRecord) : IO Unit :=
  log.forM fun record => IO.eprintln ("[" ++ record.render)

def stamps (files : List Path) : IO (List (Path × Option IO.FS.SystemTime)) :=
  files.mapM fun path => do
    let changed ← orFault (do return (← (← IO.FS.realPath path.display).metadata).modified)
    return (path, changed.toOption)

def printSeen (config : Config) (output : String) (log : List LogRecord) : IO Unit := do
  printLog (log.filter (LogFilter.parse config.logLevel).accepts)
  IO.print output

/-- Looks for changes again and again. Files that have changed are linted when none has changed for
a while. -/
partial def watchFiles (settings : FileTree) (config : Config)
    (known : List (Path × Option IO.FS.SystemTime)) (gathered : List Watch.Signal) : IO Unit := do
  IO.sleep Watch.debounce.toUInt32
  let (tree, files) ← readFiles settings config
  let found ← stamps files
  let changed := (found.filter fun file => !known.contains file).map (·.1)
  match Watch.signalsOf config.extensions (.ok ⟨.modify, changed⟩) with
  | [] =>
    unless gathered.isEmpty do
      let seen := Watch.Round.play ⟨gathered, 0⟩ tree config config.rules.buildRegistry.1
      printSeen config seen.output seen.log
    watchFiles settings config found []
  | more => watchFiles settings config found (gathered ++ more)

def runConfig (settings : FileTree) (config : Config) : IO UInt32 := do
  let (tree, files) ← readFiles settings config
  let known ← stamps files
  match config.watch, Linter.firstPass tree config with
  | true, .ok pass =>
    printSeen config pass.output (pass.log ++ [Watch.opening config])
    watchFiles settings config known []
    return 0
  | _, _ =>
    let outcome := Linter.run tree config (.still tree)
    printSeen config outcome.output outcome.log
    return outcome.status.code.toUInt32

def runLinter (start : Path) (user : Option Path) (arguments : List String) : IO UInt32 := do
  let parsed := Arguments.parse arguments
  let settings ← readSettings start user (parsed.toOption.bind Arguments.config)
  match parsed with
  | .ok given =>
    match Config.resolve settings given start user with
    | .ok config => runConfig settings config
    | .error error =>
      IO.eprintln ("tmpl-lint: " ++ error.message)
      return ExitStatus.failure.code.toUInt32
  | .error fault =>
    unless fault = .help || fault = .version do
      IO.eprintln "tmpl-lint: bad command line, try --help"
    let outcome := Linter.execute settings start user arguments (.still settings)
    IO.print outcome.output
    return outcome.status.code.toUInt32

partial def readHeader (input : IO.FS.Stream) (length : Nat) : IO (Option Nat) := do
  let line ← input.getLine
  if line.isEmpty then return none
  else if Editor.Frame.isEnd line then return some length
  else readHeader input ((Editor.Frame.length? line).getD length)

partial def readBody (input : IO.FS.Stream) (count : Nat) (held : ByteArray) : IO ByteArray := do
  if count ≤ held.size then return held
  let more ← input.read (count - held.size).toUSize
  if more.isEmpty then return held
  readBody input count (held ++ more)

partial def converse (input output : IO.FS.Stream) (server : Editor.Server) : IO Unit := do
  match ← readHeader input 0 with
  | none => return
  | some length =>
    let body ← readBody input length .empty
    let (server, reply) := server.handleText ((String.fromUTF8? body).getD "")
    for message in reply.answer.toList ++ reply.sent do
      output.putStr (Editor.Frame.encode message)
      output.flush
    unless server.phase = .exited do converse input output server

def runServer (start : Path) (user : Option Path) : IO UInt32 := do
  let tree ← readSettings start user none
  match Editor.Server.launch tree start user with
  | .error error =>
    IO.eprintln ("Error: " ++ error.message)
    return 1
  | .ok (server, log) =>
    printLog log
    converse (← IO.getStdin) (← IO.getStdout) server
    return 0

end QuoteLint

def main (arguments : List String) : IO UInt32 := do
  let start := QuoteLint.Path.ofText (← IO.currentDir).toString
  let user ← QuoteLint.userFile?
  if (← IO.appPath).fileName == some "tmpl-ls" then QuoteLint.runServer start user
  else QuoteLint.runLinter start user arguments
