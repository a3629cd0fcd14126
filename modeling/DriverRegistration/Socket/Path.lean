/-!
# Paths of sockets

The socket of a driver is given by an address, which is a path with or without a scheme in front.
The socket of a registrar lies in the directory of the plugin watcher and is named after the driver.
-/

namespace DriverRegistration.SocketPath

/-- The scheme that an address may begin with. -/
def scheme : String := "unix://"

/-- The characters after those of a beginning, if they start with it. -/
def afterStart? : List Char → List Char → Option (List Char)
  | [], cs => some cs
  | _ :: _, [] => none
  | p :: ps, c :: cs => if p = c then afterStart? ps cs else none

/-- The path of an address. -/
def ofAddress (address : String) : String :=
  match afterStart? scheme.toList address.toList with
  | some path => String.ofList path
  | none => address

/-- Whether a path starts at the root. -/
def isAbsolute (path : String) : Bool := path.toList.head? = some '/'

/-- A path seen from a directory: an absolute one stays as it is. -/
def join (directory path : String) : String :=
  if isAbsolute path then path
  else if directory = "" || directory.toList.getLast? = some '/' then directory ++ path
  else directory ++ "/" ++ path

/-- How the name of a registration socket ends. -/
def registrationEnding : String := "-reg.sock"

/-- The path of the registration socket of a driver. -/
def registration (directory driver : String) : String :=
  join directory (driver ++ registrationEnding)

end DriverRegistration.SocketPath
