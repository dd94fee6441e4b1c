import BridgedDenom.Address.Basic
import BridgedDenom.Text.Name

/-!
# Naming conventions

A convention says what stands in front of the address in a denomination: a stem
and a separator, together the *lead*.  The stem is a name and the separator, which
may be empty, is made of name characters, so the lead is a name in ASCII.  A value
of the type `Convention` has passed these checks.
-/

namespace BridgedDenom

/-- What stands in front of the address in a denomination. -/
structure Convention where
  /-- The name of the bridge. -/
  stem : Text
  /-- What separates it from the address. -/
  separator : Text
  isName_stem : stem.isName = true
  all_separator : separator.all Text.isNameChar = true
deriving DecidableEq

namespace Convention

def defaultStem : Text := "peggy".toList

def defaultSeparator : Text := []

def default : Convention := ⟨defaultStem, defaultSeparator, by decide, by decide⟩

/-- What stands in front of the address. -/
def lead (c : Convention) : Text := c.stem ++ c.separator

def leadBytes (c : Convention) : Bytes := c.lead.map fun x => UInt8.ofNat x.toNat

/-- The number of bytes of every denomination of a convention. -/
def denomLength (c : Convention) : Nat := c.stem.length + c.separator.length + Address.size

theorem isName_lead (c : Convention) : c.lead.isName = true :=
  Text.isName_append c.isName_stem c.all_separator

theorem ascii?_lead (c : Convention) : c.lead.ascii? = some c.leadBytes := by
  simp [Text.ascii?, leadBytes,
    Text.isAscii_of_all_isNameChar (Text.all_isNameChar_of_isName c.isName_lead)]

@[simp] theorem length_leadBytes (c : Convention) : c.leadBytes.length = c.lead.length := by
  simp [leadBytes]

@[simp] theorem length_lead (c : Convention) :
    c.lead.length = c.stem.length + c.separator.length := by
  simp [lead]

end Convention

end BridgedDenom
