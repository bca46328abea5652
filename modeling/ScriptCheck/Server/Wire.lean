import ScriptCheck.Json.Reader
import ScriptCheck.Json.Writer
import ScriptCheck.Server.Session

/-! The server's side of the wire: frames of a header and a body, and the JSON in the body. -/

namespace ScriptCheck.Server.Wire

def gravityNumber : Gravity → Nat
  | .error => 1
  | .warning => 2

def infoNumber : Nat := 3

def versionText : String := "0.1.0"

def Notice.method : Notice → String
  | .log _ => "window/logMessage"
  | .message .. => "window/showMessage"
  | .publish .. => "textDocument/publishDiagnostics"

def Notice.params : Notice → Json
  | .log text => .obj [("type", .nat infoNumber), ("message", .str text)]
  | .message gravity text => .obj [("type", .nat (gravityNumber gravity)), ("message", .str text)]
  | .publish uri marks version =>
    .obj ([("uri", .str uri.text), ("diagnostics", .arr (marks.map Editor.Mark.toJson))]
      ++ (version.map fun v => ("version", Json.int v)).toList)

def capabilities (formats : Bool) : Json :=
  .obj [
    ("textDocumentSync", .obj [("openClose", .bool true), ("change", .nat 1),
      ("save", .obj [("includeText", .bool true)])]),
    ("documentFormattingProvider", .bool formats)]

def Reply.toJson : Reply → Json
  | .attached formats => .obj [("capabilities", capabilities formats),
      ("serverInfo", .obj [("name", .str "gill"), ("version", .str versionText)])]
  | .done => .null
  | .edits none => .null
  | .edits (some edits) => .arr (edits.map Editor.Edit.toJson)

def RequestId.toJson : RequestId → Json
  | .number n => .int n
  | .text s => .str s
  | .none => .null

def errorJson (e : RequestError) : Json :=
  .obj [("code", .int e.code), ("message", .str e.message)]

def message (sent : Sent) : Json :=
  let version := ("jsonrpc", Json.str "2.0")
  match sent with
  | .notice n => .obj [version, ("method", .str (Notice.method n)), ("params", Notice.params n)]
  | .reply id (.ok reply) => .obj [version, ("result", Reply.toJson reply), ("id", RequestId.toJson id)]
  | .reply id (.error e) => .obj [version, ("error", errorJson e), ("id", RequestId.toJson id)]

def frame (body : String) : String :=
  "Content-Length: " ++ toString body.utf8ByteSize ++ "\r\n\r\n" ++ body

def frames (sent : List Sent) : String := String.join (sent.map fun s => frame (message s).compress)

def cutLine : List UInt8 → Option (List UInt8 × List UInt8)
  | [] => none
  | 10 :: rest => some ([], rest)
  | 13 :: 10 :: rest => some ([], rest)
  | b :: rest => (cutLine rest).map fun (line, rest) => (b :: line, rest)

def cutHeader : Nat → List UInt8 → Option (List String × List UInt8)
  | 0, _ => none
  | steps + 1, bytes =>
    match cutLine bytes with
    | none => none
    | some ([], rest) => some ([], rest)
    | some (line, rest) =>
      (cutHeader steps rest).map fun (lines, rest) => (Text.decodeLossy ⟨line.toArray⟩ :: lines, rest)

def headerValue? (name line : String) : Option String :=
  match Text.pieces ':' line.toList with
  | first :: rest@(_ :: _) =>
    if String.ofList first = name then
      some (Text.trimmed (":".intercalate (rest.map String.ofList)))
    else none
  | _ => none

def bodyLength? (lines : List String) : Option Nat :=
  if lines.all fun line => (Text.pieces ':' line.toList).length ≥ 2 then
    (lines.findSome? (headerValue? "Content-Length")).bind fun text =>
      if text.isNat then text.toNat? else none
  else none

inductive Incoming where
  | body (bytes : List UInt8) (rest : List UInt8)
  | broken
  | nothing

def canBegin (bytes : List UInt8) : Bool :=
  match cutLine bytes with
  | none => false
  | some (line, _) => line.isEmpty || line.contains 58

def nextBody (bytes : List UInt8) : Incoming :=
  if bytes.isEmpty then .nothing
  else if !canBegin bytes then .broken
  else match cutHeader (bytes.length + 1) bytes with
    | none => .broken
    | some (lines, rest) =>
      match bodyLength? lines with
      | none => .broken
      | some n => if n ≤ rest.length then .body (rest.take n) (rest.drop n) else .broken

inductive Received where
  | request (id : RequestId) (method : String) (params : Option Json)
  | notification (method : String) (params : Option Json)
  | reply
  | unreadable

def requestId? : Json → Option RequestId
  | .int n => if -(limit63 : Int) ≤ n ∧ n < limit63 then some (.number n) else none
  | .str s => some (.text s)
  | .null => some .none
  | _ => none

def methodOf? (value : Json) : Option String :=
  match value.get? "method" with
  | none => some ""
  | some (.str method) => some method
  | some _ => none

def Received.of (value : Json) : Received :=
  match value.get? "jsonrpc", (value.get? "id").map requestId?, methodOf? value with
  | some (.str "2.0"), id, method =>
    if ((value.get? "result").or (value.get? "error")).isSome ∧ id.join.isSome then .reply
    else match id, method with
      | some (some id), some method => .request id method (value.get? "params")
      | none, some method => .notification method (value.get? "params")
      | _, _ => .unreadable
  | _, _, _ => .unreadable

def serve : Nat → Session → List UInt8 → Session × List Sent
  | 0, x, _ => (x, [])
  | steps + 1, x, bytes =>
    let refusal (e : RequestError) : Session × List Sent := (x, [.reply .none (.error e)])
    let isReply : Sent → Bool
      | .reply .. => true
      | .notice _ => false
    let goOn (x : Session) (sent : List Sent) (rest : List UInt8) : Session × List Sent :=
      if x.stage = .ended then (x, sent)
      else
        let (x, more) := serve steps x rest
        (x, sent ++ more)
    match nextBody bytes with
    | .nothing => (x, [])
    | .broken => refusal .parseError
    | .body body rest =>
      match (Text.decode? ⟨body.toArray⟩).bind Json.parse? with
      | none => refusal .parseError
      | some value =>
        match Received.of value with
        | .unreadable => refusal .invalidRequest
        | .reply => goOn x [] rest
        | .notification method params =>
          let (x, sent) := x.notify method params
          goOn x sent rest
        | .request id method params =>
          let (x, sent) := x.request id method params
          let (x, sent) := x.await (·.any isReply) sent
          goOn x sent rest

end ScriptCheck.Server.Wire
