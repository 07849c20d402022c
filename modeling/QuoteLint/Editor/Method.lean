import QuoteLint.Editor.Params

/-! The methods of the language server protocol, and the parameters that each of them takes. -/

namespace QuoteLint.Editor

inductive Method where
  /-- The request that starts a session. -/
  | begin
  /-- The request that ends a session. -/
  | shutdown
  /-- The notice that ends the server. -/
  | exit
  /-- The notice that a request is no longer of interest. -/
  | cancel
  /-- The notice that the editor is ready. -/
  | ready
  | opened
  | changed
  | closed
  | hover
  /-- A request of the protocol that this server does not answer. -/
  | unsupported (params : Shape)
  /-- A notice of the protocol that changes nothing here. -/
  | unheeded

namespace Method

open Shape

def isNotice : Method → Bool
  | .ready | .opened | .changed | .closed | .unheeded => true
  | _ => false

def unsupportedRequests : List (String × Shape) := [
  ("textDocument/willSaveWaitUntil", ordered [need "textDocument" document, need "reason" .signed]),
  ("textDocument/declaration", placeWith progressAndPart),
  ("textDocument/definition", placeWith progressAndPart),
  ("textDocument/typeDefinition", placeWith progressAndPart),
  ("textDocument/implementation", placeWith progressAndPart),
  ("textDocument/references",
    placeWith (need "context" (ordered [need "includeDeclaration" .flag]) :: progressAndPart)),
  ("textDocument/prepareCallHierarchy", placeWith progress),
  ("callHierarchy/incomingCalls", byName (need "item" (hierarchyItem codes) :: progressAndPart)),
  ("callHierarchy/outgoingCalls", byName (need "item" (hierarchyItem codes) :: progressAndPart)),
  ("textDocument/prepareTypeHierarchy", placeWith progress),
  ("typeHierarchy/supertypes", byName (need "item" (hierarchyItem .signed) :: progressAndPart)),
  ("typeHierarchy/subtypes", byName (need "item" (hierarchyItem .signed) :: progressAndPart)),
  ("textDocument/documentHighlight", placeWith progressAndPart),
  ("textDocument/documentLink", documentWith progressAndPart),
  ("documentLink/resolve", documentLink),
  ("textDocument/codeLens", documentWith progressAndPart),
  ("codeLens/resolve", codeLens),
  ("textDocument/foldingRange", documentWith progressAndPart),
  ("textDocument/selectionRange",
    documentWith (need "positions" (.listOf position) :: progressAndPart)),
  ("textDocument/documentSymbol", documentWith progressAndPart),
  ("textDocument/semanticTokens/full", documentWith progressAndPart),
  ("textDocument/semanticTokens/full/delta",
    documentWith (need "previousResultId" .text :: progressAndPart)),
  ("textDocument/semanticTokens/range", documentWith (need "range" range :: progressAndPart)),
  ("textDocument/inlineValue",
    documentWith ([need "range" range, need "context" inlineValueContext] ++ progress)),
  ("textDocument/inlayHint", documentWith (need "range" range :: progress)),
  ("inlayHint/resolve", inlayHint),
  ("textDocument/moniker", placeWith progressAndPart),
  ("textDocument/completion", placeWith (may "context" completionContext :: progressAndPart)),
  ("completionItem/resolve", completionItem),
  ("textDocument/diagnostic",
    documentWith (mayEach ["identifier", "previousResultId"] .text ++ progressAndPart)),
  ("workspace/diagnostic",
    byName ([may "identifier" .text,
      need "previousResultIds" (.listOf (ordered [need "uri" .uri, need "value" .text]))] ++
      progressAndPart)),
  ("textDocument/signatureHelp", placeWith (may "context" signatureContext :: progress)),
  ("textDocument/codeAction",
    documentWith ([need "range" range, need "context" codeActionContext] ++ progressAndPart)),
  ("codeAction/resolve", codeAction),
  ("textDocument/documentColor", documentWith progressAndPart),
  ("textDocument/colorPresentation",
    documentWith ([need "color" color, need "range" range] ++ progressAndPart)),
  ("textDocument/formatting", documentWith (need "options" formattingOptions :: progress)),
  ("textDocument/rangeFormatting",
    documentWith ([need "range" range, need "options" formattingOptions] ++ progress)),
  ("textDocument/onTypeFormatting",
    placeWith [need "ch" .text, need "options" formattingOptions]),
  ("textDocument/rename", placeWith (need "newName" .text :: progress)),
  ("textDocument/prepareRename", ordered [need "textDocument" document, need "position" position]),
  ("textDocument/linkedEditingRange", placeWith progress),
  ("workspace/symbol", byName (need "query" .text :: progressAndPart)),
  ("workspaceSymbol/resolve", workspaceSymbol),
  ("workspace/executeCommand",
    byName ([need "command" .text, orDefault "arguments" (.listOf .anything)] ++ progress)),
  ("workspace/willCreateFiles", ordered [need "files" (.listOf createdFile)]),
  ("workspace/willRenameFiles", ordered [need "files" (.listOf renamedFile)]),
  ("workspace/willDeleteFiles", ordered [need "files" (.listOf createdFile)])]

def unheededNotices : List String := [
  "textDocument/willSave", "textDocument/didSave", "workspace/didChangeConfiguration",
  "workspace/didChangeWorkspaceFolders", "workspace/didCreateFiles", "workspace/didRenameFiles",
  "workspace/didDeleteFiles", "workspace/didChangeWatchedFiles"]

def ofName? (name : String) : Option Method :=
  match name with
  | "initialize" => some .begin
  | "shutdown" => some .shutdown
  | "exit" => some .exit
  | "$/cancelRequest" => some .cancel
  | "initialized" => some .ready
  | "textDocument/didOpen" => some .opened
  | "textDocument/didChange" => some .changed
  | "textDocument/didClose" => some .closed
  | "textDocument/hover" => some .hover
  | _ =>
    match unsupportedRequests.lookup name with
    | some params => some (.unsupported params)
    | none => if unheededNotices.contains name then some .unheeded else none

end Method

end QuoteLint.Editor
