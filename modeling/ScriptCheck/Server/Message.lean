import ScriptCheck.Json.Decode
import ScriptCheck.Server.Documents
import ScriptCheck.Uri.Parse

/-! What an editor tells the server and asks of it, read from the parameters it sends. -/

namespace ScriptCheck.Server

open Json

structure Workspace where
  rootUri : Option Uri
  folders : List Uri
  settings : Option Json

inductive Notification where
  | initialized
  | document (event : DocumentStore.Event)
  | unchanged
  | settings (value : Json)

inductive Request where
  | attach (workspace : Workspace)
  | shutdown
  | formatting (uri : Uri)

namespace Message

def field (value : Json) (key : String) : Json := (value.get? key).getD .null

def expectRecord (name : String) : Json → Decoded Unit
  | .obj _ => pure ()
  | .arr _ => pure ()
  | v => throw (.invalidType v.shape ("struct " ++ name))

def expectUri (value : Json) : Decoded Uri := do
  let text ← expectString "a string" value
  match Uri.parse? text with
  | some uri => pure uri
  | none => throw (.invalidValue (.str text) "a URI")

def expectNat32 (value : Json) : Decoded Nat := do
  let n ← expectNat "u32" value
  if n < limit32 then pure n else throw (.invalidValue (.int n) "u32")

/-- The fields of a record in order, from an object or an array. An array has no further
items; what is missing is null. -/
def fieldsOf (name : String) (fields : List String) : Json → Decoded (List Json)
  | .arr items =>
    if items.length = fields.length then pure items
    else throw (.invalidLength items.length ("struct " ++ name))
  | .obj entries => pure (fields.map fun key => (entries.lookup key).getD .null)
  | v => throw (.invalidType v.shape ("struct " ++ name))

def documentUri (value : Json) : Decoded Uri := do
  match ← fieldsOf "TextDocumentIdentifier" ["uri"] value with
  | [uri] => expectUri uri
  | _ => throw (.missingField "uri")

def opened (value : Json) : Decoded Notification := do
  match ← fieldsOf "DidOpenTextDocumentParams" ["textDocument"] value with
  | [item] =>
    match ← fieldsOf "TextDocumentItem" ["uri", "languageId", "version", "text"] item with
    | [uri, language, version, text] =>
      pure (.document (.opened (← expectUri uri) (← expectString "a string" text)
        (← expectInt32 version) (← expectString "a string" language)))
    | _ => throw (.missingField "uri")
  | _ => throw (.missingField "textDocument")

def position (value : Json) : Decoded Unit := do
  for part in ← fieldsOf "Position" ["line", "character"] value do
    let _ ← expectNat32 part

def range (value : Json) : Decoded Unit := do
  for part in ← fieldsOf "Range" ["start", "end"] value do
    position part

def changeText (value : Json) : Decoded String := do
  match ← fieldsOf "TextDocumentContentChangeEvent" ["range", "rangeLength", "text"] value with
  | [place, length, text] =>
    let _ ← optional range place
    let _ ← optional expectNat32 length
    expectString "a string" text
  | _ => throw (.missingField "text")

def changed (value : Json) : Decoded Notification := do
  match ← fieldsOf "DidChangeTextDocumentParams" ["textDocument", "contentChanges"] value with
  | [item, changes] =>
    match ← fieldsOf "VersionedTextDocumentIdentifier" ["uri", "version"] item with
    | [uri, version] =>
      let uri ← expectUri uri
      let version ← expectInt32 version
      let texts ← (← expectList changes).mapM changeText
      pure (match texts.getLast? with
        | some text => .document (.changed uri text version)
        | none => .unchanged)
    | _ => throw (.missingField "uri")
  | _ => throw (.missingField "textDocument")

def saved (value : Json) : Decoded Notification := do
  match ← fieldsOf "DidSaveTextDocumentParams" ["textDocument", "text"] value with
  | [item, text] =>
    pure (.document (.saved (← documentUri item) (← optional (expectString "a string") text)))
  | _ => throw (.missingField "textDocument")

def closed (value : Json) : Decoded Notification := do
  match ← fieldsOf "DidCloseTextDocumentParams" ["textDocument"] value with
  | [item] => pure (.document (.closed (← documentUri item)))
  | _ => throw (.missingField "textDocument")

def settings : Json → Decoded Notification
  | .obj entries =>
    match entries.lookup "settings" with
    | some value => pure (.settings value)
    | none => throw (.missingField "settings")
  | .arr [value] => pure (.settings value)
  | v => throw (.invalidType v.shape "struct DidChangeConfigurationParams")

def looseOption : Json → Decoded Unit
  | .bool _ => pure ()
  | .str _ => pure ()
  | .int n => discard (expectInt32 (.int n))
  | v => throw (.invalidType v.shape "a formatting option")

def formattingOption (key : String) (value : Json) : Decoded Unit :=
  match key with
  | "tabSize" => discard (expectNat32 value)
  | "insertSpaces" => discard (expectBool value)
  | "trimTrailingWhitespace" => discard (optional expectBool value)
  | "insertFinalNewline" => discard (optional expectBool value)
  | "trimFinalNewlines" => discard (optional expectBool value)
  | _ => looseOption value

def formattingOptions : Json → Decoded Unit
  | .obj entries => do
    for (key, value) in entries do formattingOption key value
    for key in ["tabSize", "insertSpaces"] do
      if (entries.lookup key).isNone then throw (.missingField key)
  | v => throw (.invalidType v.shape "struct FormattingOptions")

def formatting : Json → Decoded Request
  | .obj entries => do
    let value := Json.obj entries
    let uri ← documentUri (field value "textDocument")
    formattingOptions (field value "options")
    pure (.formatting uri)
  | v => throw (.invalidType v.shape "struct DocumentFormattingParams")

def folder (value : Json) : Decoded Uri := do
  match ← fieldsOf "WorkspaceFolder" ["uri", "name"] value with
  | [uri, name] =>
    let _ ← expectString "a string" name
    expectUri uri
  | _ => throw (.missingField "uri")

def clientInfo (value : Json) : Decoded Unit := do
  match ← fieldsOf "ClientInfo" ["name", "version"] value with
  | [name, version] =>
    let _ ← expectString "a string" name
    discard (optional (expectString "a string") version)
  | _ => throw (.missingField "name")

def capabilities (value : Json) : Decoded Unit := do
  expectRecord "ClientCapabilities" value
  for group in ["workspace", "textDocument", "notebookDocument", "window", "general"] do
    discard (optional (expectRecord group) (field value group))

def attach (value : Json) : Decoded Request := do
  expectRecord "InitializeParams" value
  discard (optional expectNat32 (field value "processId"))
  discard (optional (expectString "a string") (field value "rootPath"))
  let rootUri ← optional expectUri (field value "rootUri")
  capabilities (field value "capabilities")
  discard (optional (expectVariant strictRules ["off", "messages", "verbose"]) (field value "trace"))
  let folders ← optional (fun v => do (← expectList v).mapM folder) (field value "workspaceFolders")
  discard (optional clientInfo (field value "clientInfo"))
  discard (optional (expectString "a string") (field value "locale"))
  let settings := field value "initializationOptions"
  pure (.attach {
    rootUri
    folders := folders.getD []
    settings := if settings.isNull then none else some settings })

def idleRequests : List String :=
  ["textDocument/willSaveWaitUntil", "textDocument/declaration", "textDocument/definition",
   "textDocument/typeDefinition", "textDocument/implementation", "textDocument/references",
   "textDocument/prepareCallHierarchy", "callHierarchy/incomingCalls",
   "callHierarchy/outgoingCalls", "textDocument/prepareTypeHierarchy",
   "typeHierarchy/supertypes", "typeHierarchy/subtypes", "textDocument/documentHighlight",
   "textDocument/documentLink", "documentLink/resolve", "textDocument/hover",
   "textDocument/codeLens", "codeLens/resolve", "textDocument/foldingRange",
   "textDocument/selectionRange", "textDocument/documentSymbol",
   "textDocument/semanticTokens/full", "textDocument/semanticTokens/full/delta",
   "textDocument/semanticTokens/range", "textDocument/inlineValue", "textDocument/inlayHint",
   "inlayHint/resolve", "textDocument/moniker", "textDocument/completion",
   "completionItem/resolve", "textDocument/diagnostic", "workspace/diagnostic",
   "textDocument/signatureHelp", "textDocument/codeAction", "codeAction/resolve",
   "textDocument/documentColor", "textDocument/colorPresentation",
   "textDocument/rangeFormatting", "textDocument/onTypeFormatting", "textDocument/rename",
   "textDocument/prepareRename", "textDocument/linkedEditingRange", "workspace/symbol",
   "workspaceSymbol/resolve", "workspace/willCreateFiles", "workspace/willRenameFiles",
   "workspace/willDeleteFiles", "workspace/executeCommand"]

/-- A notification by its method; one that is not known or does not read well is ignored. -/
def notification? (method : String) (params : Option Json) : Option Notification :=
  let read (decode : Json → Decoded Notification) : Option Notification :=
    params.bind fun value => (decode value).toOption
  match method with
  | "initialized" => read fun value => do expectRecord "InitializedParams" value; pure .initialized
  | "textDocument/didOpen" => read opened
  | "textDocument/didChange" => read changed
  | "textDocument/didSave" => read saved
  | "textDocument/didClose" => read closed
  | "workspace/didChangeConfiguration" => read settings
  | _ => none

end Message
end ScriptCheck.Server
