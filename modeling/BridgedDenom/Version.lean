import BridgedDenom.Settings.Surroundings
import BridgedDenom.Text.Blank

/-!
# Version

The version is that given by the environment, or else that of the installed
distribution, or else the default.
-/

namespace BridgedDenom

namespace Version

/-- The version if nothing else gives one. -/
def default : Text := "0.1.0".toList

def distribution : Text := "peggy".toList

def versionVariable : Text := "PEGGY_VERSION".toList

/-- The version, where the second argument knows the versions of the installed
distributions.  An environment that gives a blank version gives the empty one. -/
def resolve (around : Surroundings) (installed : Text → Option Text) (name : Text) : Text :=
  match around.environment? versionVariable with
  | some s => if s.isEmpty then (installed name).getD default else s.strip
  | none => (installed name).getD default

end Version

end BridgedDenom
