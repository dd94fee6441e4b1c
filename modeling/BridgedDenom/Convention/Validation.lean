import BridgedDenom.Failure
import BridgedDenom.Json.Basic

/-!
# Accepting a convention

A convention is made of two values.  Both must be text; then the stem must be a
name, and then the separator must be made of name characters.  The first rule that
is broken is reported, with the offending text.  An accepted convention can be
written down as a document.
-/

namespace BridgedDenom

namespace Convention

def stemKey : Text := "prefix".toList

def separatorKey : Text := "separator".toList

def sectionKey : Text := "denom".toList

def notTexts : Failure :=
  .fault (.configuration "denom prefix and separator must be strings".toList [])

def badStem (stem : Text) : Failure :=
  .fault (.configuration
    "denom prefix must start with a letter and use only [a-zA-Z0-9/:._-]".toList
    [(stemKey, .text stem)])

def badSeparator (separator : Text) : Failure :=
  .fault (.configuration "denom separator may only use [a-zA-Z0-9/:._-]".toList
    [(separatorKey, .text separator)])

def ofTexts (stem separator : Text) : Except Failure Convention :=
  if hs : stem.isName then
    if ht : separator.all Text.isNameChar then .ok ⟨stem, separator, hs, ht⟩
    else .error (badSeparator separator)
  else .error (badStem stem)

def ofValues : Value → Value → Except Failure Convention
  | .text stem, .text separator => ofTexts stem separator
  | _, _ => .error notTexts

def pair (c : Convention) : Json :=
  .object [(stemKey, .text c.stem), (separatorKey, .text c.separator)]

def document (c : Convention) : Json := .object [(sectionKey, c.pair)]

def pretty (c : Convention) : Text := c.document.pretty

@[simp] theorem ofTexts_stem_separator (c : Convention) :
    ofTexts c.stem c.separator = .ok c := by
  simp [ofTexts, c.isName_stem, c.all_separator]

end Convention

end BridgedDenom
