import BridgedDenom.Value.Basic
import BridgedDenom.Yaml.Timestamp

/-!
# Plain scalars of YAML 1.1

A scalar without quotes stands for a truth value, a number, null, a time or its own
text, depending on its spelling.  Numbers may have underscores among their digits.
Integers are binary, octal, decimal, hexadecimal or sexagesimal; numbers with a
point are decimal or sexagesimal.  A number in decimal with an exponent needs both
the point and the sign of the exponent.

A scalar may have the form of a number or of a time and still have no value: a base
without a digit behind its mark, an integer with more digits than the usual limit, a
day that no month has.  These are flaws of value; so many sexagesimal parts that the
weight of the first is beyond every binary number are a flaw of size.
-/

namespace BridgedDenom

open Text (Flaw)

namespace Yaml

/-! ## Words -/

def trues : List Text :=
  ["yes", "Yes", "YES", "true", "True", "TRUE", "on", "On", "ON"].map String.toList

def falses : List Text :=
  ["no", "No", "NO", "false", "False", "FALSE", "off", "Off", "OFF"].map String.toList

def nulls : List Text := ["", "~", "null", "Null", "NULL"].map String.toList

/-- A sign, and what follows it. -/
def sign : Text → Bool × Text
  | '-' :: rest => (true, rest)
  | '+' :: rest => (false, rest)
  | rest => (false, rest)

/-! ## Integers -/

/-- A digit of a base, or an underscore. -/
def isDigitOf (base : Nat) (c : Char) : Bool :=
  c == '_' || (Hex.value? c).any fun d => d < base

/-- Digits of a base and underscores, at least one of them. -/
def isDigits (base : Nat) (s : Text) : Bool := !s.isEmpty && s.all (isDigitOf base)

/-- The number written in a base by digits and underscores. -/
def digitsIn (base : Nat) (s : Text) : Nat :=
  s.foldl (fun n c => match Hex.value? c with
    | some d => base * n + d
    | none => n) 0

/-- A number behind the mark of its base.  Underscores alone have no value. -/
def based (base : Nat) (s : Text) : Except Flaw Nat :=
  if s.all (· == '_') then .error .value else .ok (digitsIn base s)

/-- A decimal number, within the usual limit of digits. -/
def decimal (s : Text) : Except Flaw Nat :=
  if DigitLimit.usual.admits (s.countP Char.isDigit) then .ok (digitsIn 10 s) else .error .value

/-- The parts of a sexagesimal number after the first: one or two digits, the first
of two below six. -/
def sixties : List Text → Option (List Nat)
  | [] => some []
  | [c] :: rest => if c.isDigit then (sixties rest).map (digitsIn 10 [c] :: ·) else none
  | [c, d] :: rest =>
      if '0' ≤ c && c ≤ '5' && d.isDigit then (sixties rest).map (digitsIn 10 [c, d] :: ·)
      else none
  | _ => none

/-- The first part of a sexagesimal number, and the others. -/
def sexagesimal? (s : Text) : Option (Text × List Nat) :=
  match Text.splitAt ':' s with
  | first :: second :: rest =>
      if isDigits 10 first then (sixties (second :: rest)).map fun parts => (first, parts) else none
  | _ => none

def ofSixties (whole : Nat) (parts : List Nat) : Nat := parts.foldl (fun n d => 60 * n + d) whole

/-- An integer after its sign, if the text has the form of one. -/
def natural? : Text → Option (Except Flaw Nat)
  | ['0'] => some (.ok 0)
  | '0' :: 'b' :: digits => if isDigits 2 digits then some (based 2 digits) else none
  | '0' :: 'x' :: digits => if isDigits 16 digits then some (based 16 digits) else none
  | '0' :: digits => if isDigits 8 digits then some (.ok (digitsIn 8 digits)) else none
  | c :: rest =>
      if !('1' ≤ c && c ≤ '9') then none
      else if isDigits 10 (c :: rest) then some (decimal (c :: rest))
      else (sexagesimal? (c :: rest)).map fun (first, parts) => do
        pure (ofSixties (← decimal first) parts)
  | [] => none

/-- An integer, if the text has the form of one. -/
def integer? (s : Text) : Option (Except Flaw Int) :=
  let (negative, body) := sign s
  (natural? body).map fun found =>
    found.map fun n => if negative then -(n : Int) else n

/-! ## Numbers with a point -/

/-- Nothing, or an exponent with its sign. -/
def isExponent : Text → Bool
  | [] => true
  | mark :: rest =>
      match rest with
      | s :: digits =>
          (mark == 'e' || mark == 'E') && (s == '+' || s == '-') && !digits.isEmpty
            && digits.all Char.isDigit
      | [] => false

/-- The weight of the first of so many sexagesimal parts is no number of the format. -/
def isTooLong (parts : Nat) : Bool := (Binary64.ofInt? (Nat.pow 60 (parts - 1))).isNone

/-- A sexagesimal number with a fraction, after its sign. -/
def sexagesimalFraction (negative : Bool) (first : Text) (parts : List Nat) (fraction : Text) :
    Except Flaw Binary64 :=
  if isTooLong (parts.length + 1) then .error .size
  else
    let n := ofSixties (digitsIn 10 first) parts
    let scale := Nat.pow 10 (fraction.countP Char.isDigit)
    .ok (.ofRatio negative (n * scale + digitsIn 10 fraction) scale)

/-- A number with a point, if the text has the form of one. -/
def float? (s : Text) : Option (Except Flaw Binary64) :=
  let (negative, body) := sign s
  if [".inf", ".Inf", ".INF"].any (fun w => w.toList == body) then
    some (.ok (.infinite negative))
  else if [".nan", ".NaN", ".NAN"].any (fun w => w.toList == s) then some (.ok .nan)
  else
    let whole := body.takeWhile (· != '.')
    match whole, body.dropWhile (· != '.') with
    | _, [] => none
    | [], _ :: tail =>
        if (tail.headD ' ').isDigit && isExponent (tail.dropWhile (isDigitOf 10)) && s == body then
          (Binary64.readUnsigned? negative (body.filter (· != '_'))).map .ok
        else none
    | c :: _, _ :: tail =>
        if !c.isDigit then none
        else if whole.all (isDigitOf 10) then
          if isExponent (tail.dropWhile (isDigitOf 10)) then
            (Binary64.readUnsigned? negative (body.filter (· != '_'))).map .ok
          else none
        else if tail.all (isDigitOf 10) then
          (sexagesimal? whole).map fun (first, parts) =>
            sexagesimalFraction negative first parts tail
        else none

/-! ## All scalars -/

/-- The spellings with a meaning in place of a value. -/
def signs : List Text := ["<<", "="].map String.toList

def timestamp? (s : Text) : Option (Except Flaw Value) :=
  (Timestamp.ofText? s).map fun t => if t.isValid then .ok (.time s) else .error .value

def plainValue (s : Text) : Except Flaw Value :=
  if trues.contains s then .ok (.bool true)
  else if falses.contains s then .ok (.bool false)
  else if nulls.contains s then .ok .null
  else if signs.contains s then .error .form
  else
    match float? s, integer? s, timestamp? s with
    | some x, _, _ => x.map .float
    | none, some n, _ => n.map .int
    | none, none, some v => v
    | none, none, none => .ok (.text s)

example : ["yes", "n", "~", "0x1F", "010", "1_000", "1:30", "-7", "1.5", "1e5", "1.0e+2", "."].map
      (fun s => (plainValue s.toList).toOption.map fun v => String.ofList v.literal)
    = ["True", "'n'", "None", "31", "8", "1000", "90", "-7", "1.5", "'1e5'", "100.0", "'.'"].map
      some := by
  decide +kernel
example : ["0b_", "+0x__", "2024-13-01", "<<", "0_", "0x_0"].map (fun s =>
      match plainValue s.toList with
      | .error flaw => some flaw
      | .ok _ => none)
    = [some .value, some .value, some .value, some .form, none, none] := by
  decide +kernel
example : [174, 175].map isTooLong = [false, true] := by decide +kernel

end Yaml

end BridgedDenom
