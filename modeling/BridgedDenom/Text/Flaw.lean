/-!
# Flaws of a text

Reading a document can fail in four ways.  The text may not have the form of a
document at all.  It may have the form and hold a spelling that stands for nothing,
such as a day that no month has.  It may hold a number beyond the bounds of what it is
to become.  And its parts may be nested too deeply.
-/

namespace BridgedDenom

namespace Text

/-- Why a text cannot be read. -/
inductive Flaw where
  /-- It does not have the form it should have. -/
  | form
  /-- A part of it stands for no value. -/
  | value
  /-- A part of it is a number out of bounds. -/
  | size
  /-- A part of it is nested too deeply. -/
  | depth
deriving DecidableEq

/-- A part that has to be there. -/
def Flaw.require {α : Type} (part : Option α) : Except Flaw α :=
  match part with
  | some a => .ok a
  | none => .error .form

end Text

end BridgedDenom
