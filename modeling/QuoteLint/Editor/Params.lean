import QuoteLint.Editor.Capabilities

/-! The shapes of what messages tell: documents and places in them, edits, and items that are sent
back to be completed. -/

namespace QuoteLint.Editor.Shape

/-! ## Documents and places -/

def position : Shape := ordered [need "line" .unsigned, need "character" .unsigned]

def range : Shape := ordered [need "start" position, need "end" position]

def document : Shape := ordered [need "uri" .uri]

def location : Shape := ordered [need "uri" .uri, need "range" range]

def mark : Shape := .either [.signed, .text]

def progress : List Field := [may "workDoneToken" mark]

def progressAndPart : List Field := progress ++ [may "partialResultToken" mark]

def documentWith (more : List Field) : Shape := byName (need "textDocument" document :: more)

def placeWith (more : List Field) : Shape := documentWith (need "position" position :: more)

/-! ## The course of a session -/

def folder : Shape := ordered [need "uri" .uri, need "name" .text]

def client : Shape := ordered [need "name" .text, may "version" .text]

def beginParams : Shape :=
  ordered [
    may "processId" .unsigned,
    may "rootPath" .text,
    may "rootUri" .uri,
    may "initializationOptions" .anything,
    need "capabilities" capabilities,
    may "trace" (.word ["off", "messages", "verbose"]),
    may "workspaceFolders" (.listOf folder),
    may "clientInfo" client,
    may "locale" .text]

def readyParams : Shape := ordered []

def openedDocument : Shape :=
  ordered [need "uri" .uri, need "languageId" .text, need "version" .signed, need "text" .text]

def openedParams : Shape := ordered [need "textDocument" openedDocument]

def versionedDocument : Shape := ordered [need "uri" .uri, need "version" .signed]

def change : Shape := ordered [may "range" range, may "rangeLength" .unsigned, need "text" .text]

def changedParams : Shape :=
  ordered [need "textDocument" versionedDocument, need "contentChanges" (.listOf change)]

def closedParams : Shape := ordered [need "textDocument" document]

def hoverParams : Shape := placeWith progress

/-! ## Findings and edits -/

def diagnostic : Shape :=
  ordered [
    need "range" range,
    may "severity" .signed,
    may "code" mark,
    may "codeDescription" (ordered [need "href" .uri]),
    may "source" .text,
    need "message" .text,
    may "relatedInformation" (.listOf (ordered [need "location" location, need "message" .text])),
    may "tags" codes,
    may "data" .anything]

def command : Shape :=
  ordered [need "title" .text, need "command" .text, may "arguments" (.listOf .anything)]

def edit : Shape := ordered [need "range" range, need "newText" .text]

def annotatedEdit : Shape :=
  byName [need "range" range, need "newText" .text, need "annotationId" .text]

def documentEdit : Shape :=
  ordered [
    need "textDocument" (ordered [need "uri" .uri, may "version" .signed]),
    need "edits" (.listOf (.either [edit, annotatedEdit]))]

def fileOperation : Shape :=
  .tagged "kind" [
    ("create", ordered [
      need "uri" .uri, may "options" (flags ["overwrite", "ignoreIfExists"]),
        may "annotationId" .text]),
    ("rename", ordered [
      need "oldUri" .uri, need "newUri" .uri, may "options" (flags ["overwrite", "ignoreIfExists"]),
      may "annotationId" .text]),
    ("delete", ordered [
      need "uri" .uri,
      may "options"
        (ordered [
          may "recursive" .flag, may "ignoreIfNotExists" .flag, may "annotationId" .text])])]

def changeAnnotation : Shape :=
  ordered [need "label" .text, may "needsConfirmation" .flag, may "description" .text]

def workspaceEdit : Shape :=
  ordered [
    orDefault "changes" (.either [.null, .mapOf .uri (.listOf edit)]),
    may "documentChanges"
      (.either [.listOf documentEdit, .listOf (.either [fileOperation, documentEdit])]),
    may "changeAnnotations" (.mapOf .text changeAnnotation)]

/-! ## Items -/

def markup : Shape := ordered [need "kind" (.word ["plaintext", "markdown"]), need "value" .text]

def documentation : Shape := .either [.text, markup]

def documentLink : Shape :=
  ordered [need "range" range, may "target" .uri, may "tooltip" .text, may "data" .anything]

def codeLens : Shape := ordered [need "range" range, may "command" command, may "data" .anything]

def codeAction : Shape :=
  ordered [
    need "title" .text,
    may "kind" .text,
    may "diagnostics" (.listOf diagnostic),
    may "edit" workspaceEdit,
    may "command" command,
    may "isPreferred" .flag,
    may "disabled" (ordered [need "reason" .text]),
    may "data" .anything]

def hintLabelPart : Shape :=
  ordered [
    need "value" .text, may "tooltip" documentation, may "location" location, may "command" command]

def inlayHint : Shape :=
  ordered [
    need "position" position,
    need "label" (.either [.text, .listOf hintLabelPart]),
    may "kind" .signed,
    may "textEdits" (.listOf edit),
    may "tooltip" documentation,
    may "paddingLeft" .flag,
    may "paddingRight" .flag,
    may "data" .anything]

def completionItem : Shape :=
  ordered [
    need "label" .text,
    may "labelDetails" (ordered (mayEach ["detail", "description"] .text)),
    may "kind" .signed,
    may "detail" .text,
    may "documentation" documentation,
    may "deprecated" .flag,
    may "preselect" .flag,
    may "sortText" .text,
    may "filterText" .text,
    may "insertText" .text,
    may "insertTextFormat" .signed,
    may "insertTextMode" .signed,
    may "textEdit"
      (.either [edit, ordered [need "newText" .text, need "insert" range, need "replace" range]]),
    may "additionalTextEdits" (.listOf edit),
    may "command" command,
    may "commitCharacters" texts,
    may "data" .anything,
    may "tags" codes]

def workspaceSymbol : Shape :=
  ordered [
    need "name" .text,
    need "kind" .signed,
    may "tags" codes,
    may "containerName" .text,
    need "location" (.either [location, document]),
    may "data" .anything]

/-- An item of a hierarchy of calls or of types, which differ in how their tags are given. -/
def hierarchyItem (tags : Shape) : Shape :=
  ordered [
    need "name" .text,
    need "kind" .signed,
    may "tags" tags,
    may "detail" .text,
    need "uri" .uri,
    need "range" range,
    need "selectionRange" range,
    may "data" .anything]

/-! ## Contexts and options -/

def completionContext : Shape := ordered [need "triggerKind" .signed, may "triggerCharacter" .text]

def parameterInformation : Shape :=
  ordered [
    need "label" (.either [.text, .tuple [.unsigned, .unsigned]]),
      may "documentation" documentation]

def signatureInformation : Shape :=
  ordered [
    need "label" .text,
    may "documentation" documentation,
    may "parameters" (.listOf parameterInformation),
    may "activeParameter" .unsigned]

def signatureHelp : Shape :=
  ordered [
    need "signatures" (.listOf signatureInformation),
    may "activeSignature" .unsigned,
    may "activeParameter" .unsigned]

def signatureContext : Shape :=
  ordered [
    need "triggerKind" .signed,
    may "triggerCharacter" .text,
    need "isRetrigger" .flag,
    may "activeSignatureHelp" signatureHelp]

def codeActionContext : Shape :=
  ordered [need "diagnostics" (.listOf diagnostic), may "only" texts, may "triggerKind" .signed]

def inlineValueContext : Shape := ordered [need "frameId" .signed, need "stoppedLocation" range]

def color : Shape :=
  ordered [need "red" .number, need "green" .number, need "blue" .number, need "alpha" .number]

def formattingOptions : Shape :=
  .openRecord
    ([need "tabSize" .unsigned, need "insertSpaces" .flag] ++
      mayEach ["trimTrailingWhitespace", "insertFinalNewline", "trimFinalNewlines"] .flag)
    (.either [.flag, .signed, .text])

def createdFile : Shape := ordered [need "uri" .text]

def renamedFile : Shape := ordered [need "oldUri" .text, need "newUri" .text]

end QuoteLint.Editor.Shape
