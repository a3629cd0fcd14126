import DriverRegistration.Duration
import DriverRegistration.Rpc

/-!
# Failures on the way to the identity of a driver

A driver is asked two questions, and either may fail, take too long or be answered with nothing.
Before that, the driver may not be reachable at all.
-/

namespace DriverRegistration

/-- A question to a driver. -/
inductive IdentityCall where
  /-- What the driver is called. -/
  | pluginInfo
  /-- Under which id the driver knows the node. -/
  | nodeId
  deriving DecidableEq, Repr

/-- The name of a question. -/
def IdentityCall.name : IdentityCall → String
  | pluginInfo => "GetPluginInfo"
  | nodeId => "NodeGetId"

/-- Why the identity of a driver is not known. -/
inductive IdentityError where
  /-- The socket of the driver could not be reached in time. -/
  | connect (address : String) (limit : Duration) (reason : String)
  /-- A question was not answered in time. -/
  | timeout (call : IdentityCall) (limit : Duration)
  /-- A question was answered with an error. -/
  | rpc (call : IdentityCall) (status : RpcStatus)
  /-- A question was answered with an empty text. -/
  | empty (call : IdentityCall)
  deriving DecidableEq, Repr

/-- The text of an error. -/
def IdentityError.message : IdentityError → String
  | connect address limit reason =>
    "failed to connect to CSI driver at " ++ address ++ " within " ++ limit.text ++ ": " ++
      reason
  | timeout call limit => call.name ++ " timed out after " ++ limit.text
  | rpc call status => call.name ++ " failed: " ++ status.text
  | empty call => call.name ++ " returned an empty value"

end DriverRegistration
