import DriverRegistration.Text.Quoted

/-!
# Answers to remote calls

A call that fails does so with a status: one of seventeen codes, and a text.
-/

namespace DriverRegistration

/-- The code of a status. -/
inductive RpcCode where
  | ok
  | cancelled
  | unknown
  | invalidArgument
  | deadlineExceeded
  | notFound
  | alreadyExists
  | permissionDenied
  | resourceExhausted
  | failedPrecondition
  | aborted
  | outOfRange
  | unimplemented
  | internal
  | unavailable
  | dataLoss
  | unauthenticated
  deriving DecidableEq, Repr

namespace RpcCode

/-- All codes, in the order of their numbers, from zero. -/
def all : List RpcCode :=
  [ok, cancelled, unknown, invalidArgument, deadlineExceeded, notFound, alreadyExists,
    permissionDenied, resourceExhausted, failedPrecondition, aborted, outOfRange, unimplemented,
    internal, unavailable, dataLoss, unauthenticated]

/-- The code of a number; a number without a code of its own is unknown. -/
def ofNumber : Int → RpcCode
  | .ofNat n => all.getD n unknown
  | .negSucc _ => unknown

/-- The number of a code. -/
def number (c : RpcCode) : Nat := all.idxOf c

/-- The name of a code. -/
def name : RpcCode → String
  | ok => "Ok"
  | cancelled => "Cancelled"
  | unknown => "Unknown"
  | invalidArgument => "InvalidArgument"
  | deadlineExceeded => "DeadlineExceeded"
  | notFound => "NotFound"
  | alreadyExists => "AlreadyExists"
  | permissionDenied => "PermissionDenied"
  | resourceExhausted => "ResourceExhausted"
  | failedPrecondition => "FailedPrecondition"
  | aborted => "Aborted"
  | outOfRange => "OutOfRange"
  | unimplemented => "Unimplemented"
  | internal => "Internal"
  | unavailable => "Unavailable"
  | dataLoss => "DataLoss"
  | unauthenticated => "Unauthenticated"

end RpcCode

/-- Why a call failed. -/
structure RpcStatus where
  code : RpcCode
  message : String
  deriving DecidableEq, Repr

namespace RpcStatus

/-- The code and the text of a status. -/
def summary (s : RpcStatus) : String :=
  "status: " ++ s.code.name ++ ", message: " ++ Text.quoted s.message

/-- The text of a status, which carries neither details nor metadata. -/
def text (s : RpcStatus) : String :=
  s.summary ++ ", details: [], metadata: MetadataMap \x7b headers: \x7b\x7d \x7d"

/-- A status as the other side of a connection sees it: a call that ends well but brings no message
has failed, too. -/
def received (s : RpcStatus) : RpcStatus :=
  if s.code = .ok then ⟨.internal, "Missing response message."⟩ else s

end RpcStatus

end DriverRegistration
