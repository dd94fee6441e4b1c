import BridgedDenom.Failure
import BridgedDenom.Text.Quoted

/-!
# Members of the package

The package offers its modules by name, and loads each when it is first asked for.
Two of the modules of its helper package have a second name each, since their own
names are taken elsewhere.
-/

namespace BridgedDenom

namespace Package

def rootName : Text := "peggy".toList

def helperName : Text := "peggy.utils".toList

def members : List Text :=
  ["config", "errors", "logging", "denom", "erc20", "types", "utils", "cli"].map String.toList

/-- What the package holds besides its modules. -/
def attributes : List Text := ["version", "__version__", "get_version"].map String.toList

def helpers : List Text := ["bytes", "hash"].map String.toList

/-- The second names of helper modules. -/
def aliases : List (Text × Text) :=
  [("bytes_utils".toList, "bytes".toList), ("hash_utils".toList, "hash".toList)]

/-- The full name of the module of the package under a name. -/
def resolveMember (name : Text) : Except Failure Text :=
  if members.contains name then .ok (rootName ++ '.' :: name)
  else .error (.unknownName rootName name.quoted)

/-- The full name of the module of the helper package under a name. -/
def resolveHelper (name : Text) : Except Failure Text :=
  let own := (aliases.lookup name).getD name
  if helpers.contains own then .ok (helperName ++ '.' :: own)
  else .error (.unknownName helperName ('\'' :: name ++ ['\'']))

/-- The package lists the name among what it holds. -/
def isListed (name : Text) : Bool := members.contains name || attributes.contains name

end Package

end BridgedDenom
