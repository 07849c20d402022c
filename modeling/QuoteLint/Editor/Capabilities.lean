import QuoteLint.Editor.Shape

/-! The shape of what an editor says that it can do. -/

namespace QuoteLint.Editor.Shape

def flags (names : List String) : Shape := ordered (mayEach names .flag)

def dynamic : Shape := flags ["dynamicRegistration"]

def dynamicAnd (fields : List Field) : Shape := ordered (may "dynamicRegistration" .flag :: fields)

def refresh : Shape := flags ["refreshSupport"]

def texts : Shape := .listOf .text

def codes : Shape := .listOf .signed

def properties : Shape := ordered [need "properties" texts]

def kinds : Shape := ordered [may "valueSet" codes]

/-- Support for tags, as a list of them or, by an older rule, as a flag. -/
def tags : Field := orDefault "tagSupport" (.either [.null, .flag, ordered [need "valueSet" codes]])

def markups : Shape := .listOf (.word ["plaintext", "markdown"])

def workspaceEditCapability : Shape :=
  ordered [
    may "documentChanges" .flag,
    may "resourceOperations" (.listOf (.word ["create", "rename", "delete"])),
    may "failureHandling" (.word ["abort", "transactional", "textOnlyTransactional", "undo"]),
    may "normalizesLineEndings" .flag,
    may "changeAnnotationSupport" (flags ["groupsOnLabel"])]

def workspaceCapabilities : Shape :=
  ordered [
    may "applyEdit" .flag,
    may "workspaceEdit" workspaceEditCapability,
    may "didChangeConfiguration" dynamic,
    may "didChangeWatchedFiles" (flags ["dynamicRegistration", "relativePatternSupport"]),
    may "symbol" (dynamicAnd [may "symbolKind" kinds, tags, may "resolveSupport" properties]),
    may "executeCommand" dynamic,
    may "workspaceFolders" .flag,
    may "configuration" .flag,
    may "semanticTokens" refresh,
    may "codeLens" refresh,
    may "fileOperations"
      (flags ["dynamicRegistration", "didCreate", "willCreate", "didRename", "willRename",
        "didDelete",
        "willDelete"]),
    may "inlineValue" refresh,
    may "inlayHint" refresh,
    may "diagnostic" refresh]

def completionItemCapability : Shape :=
  ordered [
    may "snippetSupport" .flag,
    may "commitCharactersSupport" .flag,
    may "documentationFormat" markups,
    may "deprecatedSupport" .flag,
    may "preselectSupport" .flag,
    tags,
    may "insertReplaceSupport" .flag,
    may "resolveSupport" properties,
    may "insertTextModeSupport" (ordered [need "valueSet" codes]),
    may "labelDetailsSupport" .flag]

def completionCapability : Shape :=
  dynamicAnd [
    may "completionItem" completionItemCapability,
    may "completionItemKind" kinds,
    may "contextSupport" .flag,
    may "insertTextMode" .signed,
    may "completionList" (ordered [may "itemDefaults" texts])]

def signatureHelpCapability : Shape :=
  dynamicAnd [
    may "signatureInformation"
      (ordered [
        may "documentationFormat" markups,
        may "parameterInformation" (flags ["labelOffsetSupport"]),
        may "activeParameterSupport" .flag]),
    may "contextSupport" .flag]

def codeActionCapability : Shape :=
  dynamicAnd [
    may "codeActionLiteralSupport"
      (ordered [need "codeActionKind" (ordered [need "valueSet" texts])]),
    may "isPreferredSupport" .flag,
    may "disabledSupport" .flag,
    may "dataSupport" .flag,
    may "resolveSupport" properties,
    may "honorsChangeAnnotations" .flag]

def foldingRangeCapability : Shape :=
  dynamicAnd [
    may "rangeLimit" .unsigned,
    may "lineFoldingOnly" .flag,
    may "foldingRangeKind"
      (ordered [may "valueSet" (.listOf (.word ["comment", "imports", "region"]))]),
    may "foldingRange" (flags ["collapsedText"])]

def semanticTokensCapability : Shape :=
  dynamicAnd [
    need "requests"
      (ordered [
        may "range" .flag,
        may "full" (.either [.flag, byName [may "delta" .flag]])]),
    need "tokenTypes" texts,
    need "tokenModifiers" texts,
    need "formats" texts,
    may "overlappingTokenSupport" .flag,
    may "multilineTokenSupport" .flag,
    may "serverCancelSupport" .flag,
    may "augmentsSyntaxTokens" .flag]

def linked : Shape := flags ["dynamicRegistration", "linkSupport"]

def documentCapabilities : Shape :=
  ordered [
    may "synchronization" (flags ["dynamicRegistration", "willSave", "willSaveWaitUntil",
      "didSave"]),
    may "completion" completionCapability,
    may "hover" (dynamicAnd [may "contentFormat" markups]),
    may "signatureHelp" signatureHelpCapability,
    may "references" dynamic,
    may "documentHighlight" dynamic,
    may "documentSymbol"
      (dynamicAnd [may "symbolKind" kinds, may "hierarchicalDocumentSymbolSupport" .flag, tags]),
    may "formatting" dynamic,
    may "rangeFormatting" dynamic,
    may "onTypeFormatting" dynamic,
    may "declaration" linked,
    may "definition" linked,
    may "typeDefinition" linked,
    may "implementation" linked,
    may "codeAction" codeActionCapability,
    may "codeLens" dynamic,
    may "documentLink" (flags ["dynamicRegistration", "tooltipSupport"]),
    may "colorProvider" dynamic,
    may "rename"
      (dynamicAnd [
        may "prepareSupport" .flag,
        may "prepareSupportDefaultBehavior" .signed,
        may "honorsChangeAnnotations" .flag]),
    may "publishDiagnostics"
      (ordered [
        may "relatedInformation" .flag,
        tags,
        may "versionSupport" .flag,
        may "codeDescriptionSupport" .flag,
        may "dataSupport" .flag]),
    may "foldingRange" foldingRangeCapability,
    may "selectionRange" dynamic,
    may "linkedEditingRange" dynamic,
    may "callHierarchy" dynamic,
    may "semanticTokens" semanticTokensCapability,
    may "moniker" dynamic,
    may "typeHierarchy" dynamic,
    may "inlineValue" dynamic,
    may "inlayHint" (dynamicAnd [may "resolveSupport" properties]),
    may "diagnostic" (flags ["dynamicRegistration", "relatedDocumentSupport"])]

def windowCapabilities : Shape :=
  ordered [
    may "workDoneProgress" .flag,
    may "showMessage" (ordered [may "messageActionItem" (flags ["additionalPropertiesSupport"])]),
    may "showDocument" (ordered [need "support" .flag])]

def generalCapabilities : Shape :=
  ordered [
    may "regularExpressions" (ordered [need "engine" .text, may "version" .text]),
    may "markdown" (ordered [need "parser" .text, may "version" .text, may "allowedTags" texts]),
    may "staleRequestSupport" (ordered [need "cancel" .flag, need "retryOnContentModified" texts]),
    may "positionEncodings" texts]

def capabilities : Shape :=
  ordered [
    may "workspace" workspaceCapabilities,
    may "textDocument" documentCapabilities,
    may "window" windowCapabilities,
    may "general" generalCapabilities,
    may "experimental" .anything]

end QuoteLint.Editor.Shape
