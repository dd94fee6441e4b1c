import BridgedDenom.Proofs.Address.Language
import BridgedDenom.Proofs.CommandLine.Asking
import BridgedDenom.Proofs.Token.Coin

/-!
# From an address to its denomination and back

The commands that print a denomination and that check an address read the same texts as
addresses, and refuse the others in the same words.  What is printed about an address is its
checksum form, its display form and the hex of its storage form; each of the last two leads
back to the first, the hex also where it is marked (`validate_denom_decode`).  This holds under
every convention that is loaded, in whatever way its file is read.

None of the texts printed has the form of an option: a display form starts with a letter and
the others with a digit.  So each may stand as an argument.
-/

namespace BridgedDenom

open Address (IsSpelling Spells refusal)

/-! ## Reading without a note -/

namespace Convention

section
variable (c : Convention) (a : Address)

end

end Convention

namespace CommandLine

/-! ## What the commands print -/

section
variable {read : Settings.Reader} {around : Surroundings} {c : Convention} {s : Text} {a : Address}
  {asJson : Bool}

end

/-! ## Command lines -/

section
variable {around : Surroundings} {s : Text} (known : LevelKnown around none)
  (plain : Arguments.isOption s = false)
include plain

include known

end

/-! ## Texts that are no options -/

section
variable {read : Settings.Reader} {around : Surroundings} {c : Convention} {s : Text}

end

end CommandLine

end BridgedDenom
