import QuoteLint.Config
import QuoteLint.Editor.Method
import QuoteLint.Editor.Session
import QuoteLint.Json.Reader
import QuoteLint.Linter

/-! The language server: the messages that it takes, those that it sends, and the course of a
session. -/

namespace QuoteLint.Editor

/-- A message of the editor. With an id it is a request and wants an answer, else it is a notice. -/
structure Message where
  method : String
  id : Option Json
  params : Option Json

def text? : Json → Option String
  | .text s => some s
  | _ => none

def isLongInt : Json → Bool
  | .int n => -0x8000000000000000 ≤ n && n < 0x8000000000000000
  | _ => false

def isId : Json → Bool
  | .null => true
  | .text _ => true
  | json => isLongInt json

def Message.ofJson? (json : Json) : Option Message := do
  let method ← text? ((json.field? "method").getD (.text ""))
  if (json.field? "id").all isId then
    return { method, id := json.field? "id", params := json.field? "params" }
  else none

def isFault : Json → Bool
  | .list [code, message, _] => isLongInt code && (text? message).isSome
  | .object fields =>
    fields.all (fun field => ["code", "message", "data"].contains field.1) &&
      ((Json.object fields).field? "code").any isLongInt &&
      (((Json.object fields).field? "message").bind text?).isSome
  | _ => false

/-- An answer to a request of the server's own, of which there is none to be answered. -/
def isAnswer (json : Json) : Bool :=
  (json.field? "id").any isId &&
    ((json.field? "result").isSome || (json.field? "error").any isFault)

inductive Phase where
  | unstarted
  | running
  | stopped
  | exited
  deriving DecidableEq, Repr

structure Server where
  session : Session
  phase : Phase

structure Reply where
  answer : Option Json
  sent : List Json

inductive Refusal where
  | unreadable
  | notStarted
  | invalidRequest
  | unknownMethod (name : String)
  | unsupported
  | invalidParams
  deriving DecidableEq, Repr

namespace Refusal

def code : Refusal → Int
  | .unreadable => -32700
  | .notStarted => -32002
  | .invalidRequest => -32600
  | .unknownMethod _ => -32601
  | .unsupported => -32601
  | .invalidParams => -32602

def message : Refusal → String
  | .unreadable => "Parse error"
  | .notStarted => "Server not initialized"
  | .invalidRequest => "Invalid request"
  | .unknownMethod _ => "Method not found"
  | .unsupported => "Method not found"
  | .invalidParams => "Invalid params"

def json (refusal : Refusal) : Json :=
  let data := match refusal with
    | .unknownMethod name => [("data", Json.text name)]
    | _ => []
  .object ([("code", .int refusal.code), ("message", .text refusal.message)] ++ data)

end Refusal

def rpcVersion : String × Json := ("jsonrpc", .text "2.0")

def result (id value : Json) : Json := .object [rpcVersion, ("result", value), ("id", id)]

def refuse (refusal : Refusal) (id : Json) : Json :=
  .object [rpcVersion, ("error", refusal.json), ("id", id)]

def notice (method : String) (params : Json) : Json :=
  .object [rpcVersion, ("method", .text method), ("params", params)]

def Publication.json (publication : Publication) : Json :=
  notice "textDocument/publishDiagnostics"
    (.object [
      ("uri", .text publication.uri),
      ("diagnostics", .list (publication.marks.map Mark.json))])

def welcome : Json :=
  .object [
    ("capabilities", .object [("textDocumentSync", .int 1), ("hoverProvider", .bool true)]),
    ("serverInfo", .object [("name", .text "tmpl-ls"), ("version", .text "0.1.0")])]

def readyNotice (registry : Registry) : Json :=
  let count := registry.enabled.length
  notice "window/logMessage"
    (.object [
      ("type", .int 3),
      ("message", .text ("tmpl-ls initialized with " ++ toString count ++ " rule(s)"))])

def nat? : Json → Option Nat
  | .int n => if 0 ≤ n then some n.toNat else none
  | _ => none

def address? (json : Json) : Option String := (text? json).bind Address.normalize?

def checked? (shape : Shape) (params : Option Json) : Option Json := do
  let params ← params
  if shape.fits params then some params else none

def openedEvent? (params : Option Json) : Option Event := do
  let params ← checked? .openedParams params
  let document ← Shape.openedParams.get? "textDocument" params
  let uri ← (Shape.openedDocument.get? "uri" document).bind address?
  let text ← (Shape.openedDocument.get? "text" document).bind text?
  return .opened uri text

def changeTexts? : Json → Option (List String)
  | .list changes => changes.mapM fun change => (Shape.change.get? "text" change).bind text?
  | _ => none

def changedEvent? (params : Option Json) : Option Event := do
  let params ← checked? .changedParams params
  let document ← Shape.changedParams.get? "textDocument" params
  let uri ← (Shape.versionedDocument.get? "uri" document).bind address?
  let texts ← (Shape.changedParams.get? "contentChanges" params).bind changeTexts?
  return .changed uri texts

def closedEvent? (params : Option Json) : Option Event := do
  let params ← checked? .closedParams params
  let document ← Shape.closedParams.get? "textDocument" params
  let uri ← (Shape.document.get? "uri" document).bind address?
  return .closed uri

def hoveredPlace? (params : Option Json) : Option (String × Nat) := do
  let params ← checked? .hoverParams params
  let document ← Shape.hoverParams.get? "textDocument" params
  let uri ← (Shape.document.get? "uri" document).bind address?
  let position ← Shape.hoverParams.get? "position" params
  let line ← (Shape.position.get? "line" position).bind nat?
  return (uri, line)

namespace Server

def start (registry : Registry) (settings : RuleSettings) : Server :=
  ⟨.start registry settings, .unstarted⟩

def silent : Reply := ⟨none, []⟩

def refuseWith (refusal : Refusal) (id : Option Json) : Reply := ⟨id.map (refuse refusal), []⟩

def refuseEarlyOrLate (server : Server) (id : Option Json) : Reply :=
  refuseWith (if server.phase = .unstarted then .notStarted else .invalidRequest) id

def follow (server : Server) : Option Event → Server × Reply
  | some event =>
    let (session, published) := server.session.follow event
    ({ server with session }, ⟨none, published.map Publication.json⟩)
  | none => (server, silent)

def hoverAnswer (session : Session) (uri : String) (line : Nat) : Json :=
  match session.hover? uri line with
  | some hover => hover.json
  | none => .null

def handleBegin (server : Server) (message : Message) : Server × Reply :=
  if server.phase = .unstarted then
    match message.id, checked? .beginParams message.params with
    | some id, some _ => ({ server with phase := .running }, ⟨some (result id welcome), []⟩)
    | id, _ => (server, refuseWith .invalidParams id)
  else (server, refuseWith .invalidRequest message.id)

/-- A running session stops, whatever the rest of the message says. -/
def handleShutdown (server : Server) (message : Message) : Server × Reply :=
  if server.phase = .running then
    let stopped := { server with phase := .stopped }
    match message.params with
    | none => (stopped, ⟨message.id.map (result · .null), []⟩)
    | some _ => (stopped, refuseWith .invalidParams message.id)
  else (server, server.refuseEarlyOrLate message.id)

def handleRunning (server : Server) (message : Message) : Method → Server × Reply
  | .ready =>
    match checked? .readyParams message.params with
    | some _ => (server, ⟨none, [readyNotice server.session.registry]⟩)
    | none => (server, silent)
  | .opened => server.follow (openedEvent? message.params)
  | .changed => server.follow (changedEvent? message.params)
  | .closed => server.follow (closedEvent? message.params)
  | .hover =>
    match message.id, hoveredPlace? message.params with
    | some id, some (uri, line) =>
      (server, ⟨some (result id (hoverAnswer server.session uri line)), []⟩)
    | id, _ => (server, refuseWith .invalidParams id)
  | .unsupported params =>
    let refusal := if (checked? params message.params).isSome then .unsupported else .invalidParams
    (server, refuseWith refusal message.id)
  | _ => (server, silent)

/-- Extensions of the protocol that a server does not know are dropped without an answer. -/
def isExtension (method : String) : Bool := ['$', '/'].isPrefixOf method.toList

/-- Handles one message. A notice with an id asks for an answer, and is refused. -/
def handle (server : Server) (message : Message) : Server × Reply :=
  match Method.ofName? message.method with
  | none =>
    if isExtension message.method then (server, silent)
    else (server, refuseWith (.unknownMethod message.method) message.id)
  | some .exit => ({ server with phase := .exited }, silent)
  | some .cancel => (server, refuseWith .invalidRequest message.id)
  | some .begin => server.handleBegin message
  | some .shutdown => server.handleShutdown message
  | some method =>
    if server.phase ≠ .running then (server, server.refuseEarlyOrLate message.id)
    else if method.isNotice && message.id.isSome then
      (server, refuseWith .invalidRequest message.id)
    else server.handleRunning message method

def giveUp (server : Server) (refusal : Refusal) : Server × Reply :=
  ({ server with phase := .exited }, refuseWith refusal (some .null))

def handleJson (server : Server) (json : Json) : Server × Reply :=
  if isAnswer json then (server, silent)
  else match Message.ofJson? json with
    | none => server.giveUp .invalidRequest
    | some message => server.handle message

def handleText (server : Server) (body : String) : Server × Reply :=
  match Json.read? body.toList with
  | none => server.giveUp .unreadable
  | some json => server.handleJson json

def target : String := "tmpl_lint::lsp::server"

def launch (tree : FileTree) (directory : Path) (user : Option Path) :
    Except ConfigError (Server × List LogRecord) := do
  let config ← Config.discover tree directory user
  let (registry, warnings) := config.rules.buildRegistry
  let log := Linter.usingConfig target config.projectFile ++ warnings
  return (start registry config.rules, log.filter (LogFilter.parse config.logLevel).accepts)

end Server

end QuoteLint.Editor
