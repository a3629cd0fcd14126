import DriverRegistration.Cluster.Request
import DriverRegistration.Json.Members
import DriverRegistration.Node.Store
import DriverRegistration.Text.Quoted

/-!
# Refusals of the cluster's interface

A refusal comes with a document that names its status, a message, a reason and a code.  The code of
the document counts, whatever the status of the response says; where the document cannot be read,
one is made from the status and the text of the body.  `Refusal.storeError` tells the two refusals
that a registrar acts on, a conflict and a missing node, from all others.
-/

namespace DriverRegistration.Cluster

open Text

/-- What a refusal says. -/
structure ErrorDocument where
  status : String
  message : String
  reason : String
  code : Nat
  deriving DecidableEq, Repr

namespace ErrorDocument

/-- The document with the types of its members, in the form of an expression. -/
def detail (e : ErrorDocument) : String :=
  "ErrorResponse \x7b status: " ++ quoted e.status ++ ", message: " ++ quoted e.message ++
    ", reason: " ++ quoted e.reason ++ s!", code: {e.code}" ++ " \x7d"

/-- The text of a refusal. -/
def text (e : ErrorDocument) : String :=
  e.message ++ ": " ++ e.reason ++ " (" ++ e.detail ++ ")"

/-! ## Reading -/

/-- The members that were met so far. -/
structure Draft where
  status : Option String := none
  message : Option String := none
  reason : Option String := none
  code : Option Nat := none

/-- The largest code. -/
def codeLimit : Nat := 65535

/-- The code that a number is. -/
def codeOf (n : Json.Number) (rest : List Char) : Except Json.Fault (Nat × List Char) :=
  match n with
  | .integer (.ofNat i) =>
    if i ≤ codeLimit then .ok (i, rest) else .error (.here (.wrongValue n.found "u16") rest)
  | .integer _ => .error (.here (.wrongValue n.found "u16") rest)
  | .float _ => .error (.here (.wrongType n.found "u16") rest)

/-- Read a code. -/
def codeValue (cs : List Char) : Except Json.Fault (Nat × List Char) := do
  match ← Json.startOfValue cs with
  | '-' :: r =>
    let (n, rest) ← Json.number true r
    codeOf n rest
  | r =>
    if Json.startsWithDigit r then
      let (n, rest) ← Json.number false r
      codeOf n rest
    else .error (Json.wrongType "u16" r)

/-- Read one member; those of other names are passed over. -/
def member (key : String) (d : Draft) (cs : List Char) : Except Json.Fault (Draft × List Char) :=
  if key = "status" then do
    let (a, rest) ← Json.onceOnly key d.status Json.textValue cs
    return ({ d with status := a }, rest)
  else if key = "message" then do
    let (a, rest) ← Json.onceOnly key d.message Json.textValue cs
    return ({ d with message := a }, rest)
  else if key = "reason" then do
    let (a, rest) ← Json.onceOnly key d.reason Json.textValue cs
    return ({ d with reason := a }, rest)
  else if key = "code" then do
    let (a, rest) ← Json.onceOnly key d.code codeValue cs
    return ({ d with code := a }, rest)
  else do return (d, ← Json.ignoredValue (← Json.colon cs))

/-- The document of the members; the message and the reason may be missing. -/
def Draft.finish (d : Draft) : Except Json.Cause ErrorDocument := do
  let status ← Json.required "status" d.status
  let code ← Json.required "code" d.code
  return ⟨status, d.message.getD "", d.reason.getD "", code⟩

/-- What a list of the values is expected to be. -/
def expectedList : String := "struct ErrorResponse with 4 elements"

/-- Read a document that is given as a list, from just after its opening bracket. -/
def listed (cs : List Char) : Except Json.Fault (ErrorDocument × List Char) := do
  let (status, cs) ← Json.nextValue expectedList 0 Json.textValue cs
  let (message, cs) ← Json.nextValue expectedList 1 Json.textValue cs
  let (reason, cs) ← Json.nextValue expectedList 2 Json.textValue cs
  let (code, cs) ← Json.nextValue expectedList 3 codeValue cs
  return (⟨status, message, reason, code⟩, ← Json.endOfList cs)

/-- Read a document. -/
def value (cs : List Char) : Except Json.Fault (ErrorDocument × List Char) := do
  match ← Json.startOfValue cs with
  | '\x7b' :: rest => Json.object member {} Draft.finish rest
  | '[' :: rest => listed rest
  | rest => .error (Json.wrongType "struct ErrorResponse" rest)

/-- The document that a body holds, if it is one. -/
def decode? (body : String) : Option ErrorDocument :=
  match value body.toList with
  | .ok (e, rest) => if Json.skipBlanks rest = [] then some e else none
  | .error _ => none

/-! ## Refusals without a document -/

/-- The phrase that belongs to a status. -/
def phrase (status : Nat) : String :=
  (phrases.lookup status).getD "<unknown status code>"
where
  phrases : List (Nat × String) :=
    [(400, "Bad Request"), (401, "Unauthorized"), (402, "Payment Required"), (403, "Forbidden"),
      (404, "Not Found"), (405, "Method Not Allowed"), (406, "Not Acceptable"),
      (407, "Proxy Authentication Required"), (408, "Request Timeout"), (409, "Conflict"),
      (410, "Gone"), (411, "Length Required"), (412, "Precondition Failed"),
      (413, "Payload Too Large"), (414, "URI Too Long"), (415, "Unsupported Media Type"),
      (416, "Range Not Satisfiable"), (417, "Expectation Failed"), (418, "I'm a teapot"),
      (421, "Misdirected Request"), (422, "Unprocessable Entity"), (423, "Locked"),
      (424, "Failed Dependency"), (425, "Too Early"), (426, "Upgrade Required"),
      (428, "Precondition Required"), (429, "Too Many Requests"),
      (431, "Request Header Fields Too Large"), (451, "Unavailable For Legal Reasons"),
      (500, "Internal Server Error"), (501, "Not Implemented"), (502, "Bad Gateway"),
      (503, "Service Unavailable"), (504, "Gateway Timeout"), (505, "HTTP Version Not Supported"),
      (506, "Variant Also Negotiates"), (507, "Insufficient Storage"), (508, "Loop Detected"),
      (510, "Not Extended"), (511, "Network Authentication Required")]

/-- The document made up for a body that is none. -/
def ofBody (status : Nat) (body : String) : ErrorDocument :=
  ⟨s!"{status} " ++ phrase status, quoted body, "Failed to parse error data", status⟩

end ErrorDocument

/-- Why the interface does not answer with a node. -/
inductive Refusal where
  /-- The request cannot be made. -/
  | request (fault : RequestFault)
  /-- The request was not carried to an answer. -/
  | service (text : String)
  /-- The answer is no node. -/
  | unreadable (text : String)
  | refused (document : ErrorDocument)
  deriving DecidableEq, Repr

namespace Refusal

/-- The text of a refusal. -/
def message : Refusal → String
  | request f => "Failed to build request: " ++ f.message
  | service s => "ServiceError: " ++ s
  | unreadable s => "Error deserializing response: " ++ s
  | refused e => "ApiError: " ++ e.text

/-- The code of a refusal that another write overtook this one. -/
def conflictCode : Nat := 409

/-- The code of a refusal that there is no such node. -/
def missingCode : Nat := 404

/-- What a refusal means for a request about a node. -/
def storeError (node : String) (r : Refusal) : StoreError :=
  match r with
  | refused e =>
    if e.code = conflictCode then .conflict node e.message
    else if e.code = missingCode then .notFound node
    else .api r.message
  | _ => .api r.message

end Refusal

end DriverRegistration.Cluster
