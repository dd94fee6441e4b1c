import BridgedDenom.Bytes.Hex
import BridgedDenom.Text.Quoted
import BridgedDenom.Text.Surrogate

/-!
# JSON strings

A string is written in ASCII alone.  Quotes, backslashes and five controls have
short escapes; every other character that is not printable ASCII is given by its
UTF-16 units in hex, one unit for most characters and a pair of surrogates for
those beyond `ffff`.

A reader takes the characters of a string one by one, an escape as one *code*, and
then makes characters of the codes (`Text.ofCodes`).  Controls may not stand in a
string unescaped.
-/

namespace BridgedDenom

namespace Json

/-! ## Writing -/

/-- The characters with a short escape, each with the letter of the escape. -/
def shortEscapes : List (Char × Char) :=
  [('"', '"'), ('\\', '\\'), ('\n', 'n'), ('\r', 'r'), ('\t', 't'), ('\x0c', 'f'), ('\x08', 'b')]

def escapedChar (c : Char) : Text :=
  match shortEscapes.lookup c with
  | some letter => ['\\', letter]
  | none =>
      if 0x20 ≤ c.toNat && c.toNat ≤ 0x7E then [c]
      else (Text.units c.toNat).flatMap fun u => '\\' :: 'u' :: Text.hexCode 4 u

def quoted (s : Text) : Text := '"' :: s.flatMap escapedChar ++ ['"']

/-! ## Reading -/

def unitOfHex? (a b c d : Char) : Option Nat := do
  let a ← Hex.value? a
  let b ← Hex.value? b
  let c ← Hex.value? c
  let d ← Hex.value? d
  pure (((a * 16 + b) * 16 + c) * 16 + d)

/-- The character of the letter of a short escape; the solidus may be escaped
too. -/
def shortEscape? (letter : Char) : Option Char :=
  if letter = '/' then some '/' else (shortEscapes.find? fun e => e.2 == letter).map (·.1)

/-- The codes of a string up to its closing quote, and what follows. -/
def readCodes? : Text → Option (List Nat × Text)
  | [] => none
  | c :: rest =>
      if c = '"' then some ([], rest)
      else if c = '\\' then
        match rest with
        | [] => none
        | letter :: rest =>
            if letter = 'u' then
              match rest with
              | h₁ :: h₂ :: h₃ :: h₄ :: rest => do
                  let code ← unitOfHex? h₁ h₂ h₃ h₄
                  let (codes, rest) ← readCodes? rest
                  pure (code :: codes, rest)
              | _ => none
            else do
              let char ← shortEscape? letter
              let (codes, rest) ← readCodes? rest
              pure (char.toNat :: codes, rest)
      else if c.toNat < 0x20 then none
      else do
        let (codes, rest) ← readCodes? rest
        pure (c.toNat :: codes, rest)

/-- A string after its opening quote, and what follows it. -/
def readText? (s : Text) : Option (Text × Text) := do
  let (codes, rest) ← readCodes? s
  pure (Text.ofCodes codes, rest)

example : quoted "a\"\\\n\x00\x7f\u00e9😀".toList
    = "\"a\\\"\\\\\\n\\u0000\\u007f\\u00e9\\ud83d\\ude00\"".toList := by decide +kernel
example : readText? "a\\u00e9\\ud83d\\ude00\\/\"]".toList = some ("a\u00e9😀/".toList, "]".toList) := by
  decide +kernel
/-- A lone surrogate, a raw control and a missing end. -/
example : (readText? "\\ud83dx\"".toList, readText? "a\nb\"".toList, readText? "ab".toList)
    = (some ("\ufffdx".toList, []), none, none) := by decide +kernel

end Json

end BridgedDenom
