import BridgedDenom.Json.Basic
import BridgedDenom.Text.Flaw

/-!
# Reading JSON

A document with blanks around it and nothing else.  Besides the standard's own
numbers the words `NaN`, `Infinity` and `-Infinity` are read.  A number with a
fraction or an exponent is read as a binary number, any other exactly.  An object
keeps every entry, also where a name is repeated.

A text that is no document has a flaw of form.  An integer with more digits than the
usual limit is a flaw of value, and a list or an object inside too many others one of
depth.  The first flaw in the text counts.

A document inside another one is shorter than it, so twice the length of the text
bounds the depth of the calls; `read` supplies that bound.
-/

namespace BridgedDenom

open Text (Flaw)

namespace Json

def isSpace (c : Char) : Bool := c == ' ' || c == '\t' || c == '\n' || c == '\r'

def skip (s : Text) : Text := s.dropWhile isSpace

/-- A fraction after a point, if digits follow it. -/
def readFraction (s : Text) : List Nat × Text :=
  match s with
  | '.' :: rest =>
      match Binary64.readDigits rest with
      | ([], _) => ([], s)
      | found => found
  | _ => ([], s)

/-- An exponent after `e` or `E`, if digits follow it. -/
def readExponent (s : Text) : Option Int × Text :=
  match s with
  | mark :: rest =>
      if mark = 'e' || mark = 'E' then
        let (negative, digits) := match rest with
          | '-' :: rest => (true, rest)
          | '+' :: rest => (false, rest)
          | rest => (false, rest)
        match Binary64.readDigits digits with
        | ([], _) => (none, s)
        | (ds, rest) =>
            let size : Int := Binary64.digitsValue ds
            (some (if negative then -size else size), rest)
      else (none, s)
  | [] => (none, s)

/-- The digits before the point: a single zero, or digits that start with none. -/
def readWhole? : Text → Option (List Nat × Text)
  | [] => none
  | c :: rest =>
      if c = '0' then some ([0], rest)
      else if c.isDigit then some (Binary64.readDigits (c :: rest))
      else none

def readUnsigned (negative : Bool) (s : Text) : Except Flaw (Json × Text) := do
  let (whole, rest) ← Flaw.require (readWhole? s)
  let (fraction, rest) := readFraction rest
  let (exponent, rest) := readExponent rest
  if fraction.isEmpty && exponent.isNone then
    if DigitLimit.usual.admits whole.length then
      let size : Int := Binary64.digitsValue whole
      pure (.int (if negative then -size else size), rest)
    else throw .value
  else
    pure (.float (.ofDecimal negative (Binary64.digitsValue (whole ++ fraction))
      (exponent.getD 0 - fraction.length)), rest)

/-- The words and what they stand for. -/
def words : List (Text × Json) :=
  [("null".toList, .null), ("true".toList, .bool true), ("false".toList, .bool false),
   ("NaN".toList, .float .nan), ("Infinity".toList, .float (.infinite false)),
   ("-Infinity".toList, .float (.infinite true))]

def readWord? (s : Text) : Option (Json × Text) :=
  words.findSome? fun (word, document) =>
    if word.isPrefixOf s then some (document, s.drop word.length) else none

def readPlain (s : Text) : Except Flaw (Json × Text) :=
  match readWord? s with
  | some found => .ok found
  | none =>
      match s with
      | '-' :: rest => readUnsigned true rest
      | _ => readUnsigned false s

/-- The most lists and objects that may stand inside one another. -/
def nestingLimit : Nat := 989

mutual

/-- A document at the start of a text, and what follows it, with room for so many lists
and objects inside one another. -/
def readFrom (room : Nat) : Nat → Text → Except Flaw (Json × Text)
  | 0, _ => .error .form
  | _ + 1, [] => .error .form
  | depth + 1, c :: rest =>
      if c = '"' then do
        let (s, rest) ← Flaw.require (readText? rest)
        pure (.text s, rest)
      else if c = '[' then
        match room with
        | 0 => .error .depth
        | room + 1 =>
            match skip rest with
            | ']' :: rest => .ok (.list [], rest)
            | rest => do
                let (items, rest) ← readItems room depth rest
                pure (.list items, rest)
      else if c = '\x7b' then
        match room with
        | 0 => .error .depth
        | room + 1 =>
            match skip rest with
            | '\x7d' :: rest => .ok (.object [], rest)
            | rest => do
                let (entries, rest) ← readEntries room depth rest
                pure (.object entries, rest)
      else readPlain (c :: rest)

def readItems (room : Nat) : Nat → Text → Except Flaw (List Json × Text)
  | 0, _ => .error .form
  | depth + 1, s => do
      let (item, rest) ← readFrom room depth s
      match skip rest with
      | ',' :: rest => do
          let (items, rest) ← readItems room depth (skip rest)
          pure (item :: items, rest)
      | ']' :: rest => pure ([item], rest)
      | _ => throw .form

def readEntries (room : Nat) : Nat → Text → Except Flaw (List (Text × Json) × Text)
  | 0, _ => .error .form
  | depth + 1, s =>
      match s with
      | '"' :: rest => do
          let (key, rest) ← Flaw.require (readText? rest)
          match skip rest with
          | ':' :: rest => do
              let (document, rest) ← readFrom room depth (skip rest)
              match skip rest with
              | ',' :: rest => do
                  let (entries, rest) ← readEntries room depth (skip rest)
                  pure ((key, document) :: entries, rest)
              | '\x7d' :: rest => pure ([(key, document)], rest)
              | _ => throw .form
          | _ => throw .form
      | _ => .error .form

end

def read (s : Text) : Except Flaw Json := do
  let (document, rest) ← readFrom nestingLimit (2 * s.length + 2) (skip s)
  if (skip rest).isEmpty then pure document else throw .form

example : (read " [1, -2.5e0, \"x\", true] ".toList).toOption.map compact
    = some "[1,-2.5,\"x\",true]".toList := by decide +kernel
example : (read "\x7b\"a\": \x7b\x7d, \"a\": NaN\x7d".toList).toOption.map compact
    = some "\x7b\"a\":\x7b\x7d,\"a\":NaN\x7d".toList := by decide +kernel
example : ["", "01", "[1,]", "\x7b\"a\":1,\x7d", "1 2", "\ufeff1", "tru", "-", "'a'", "[1"].map
    (fun s => (read s.toList).toOption.isSome) = List.replicate 10 false := by decide +kernel
/-- One bracket too many, though none is closed. -/
example : [989, 990].map (fun n => match read (List.replicate n '[') with
      | .error flaw => some flaw
      | .ok _ => none) = [some .form, some .depth] := by decide +kernel
/-- A number that is too long, before and behind a flaw of form. -/
example : ["[1", "]1"].map (fun s => match read (s.toList ++ List.replicate 4300 '1') with
      | .error flaw => some flaw
      | .ok _ => none) = [some .value, some .form] := by decide +kernel

end Json

end BridgedDenom
