import BridgedDenom.Decimal.Rounded
import BridgedDenom.Denomination.Reading
import BridgedDenom.Log.Template
import BridgedDenom.Text.Surrogate
import BridgedDenom.Value.Conversion
import BridgedDenom.Value.Parts

/-!
# Messages

The message of an event is its template with the arguments of the event in the places of the
directives.  They are taken one after the other, and a width or a precision may take one as well.
If the event has a single argument and this is a mapping with entries, then a directive with a
key takes the entry of that name.  The mapping itself is there to be taken once, and so is the
entry that was named last.

Arguments may not be left over, unless they are in a mapping.  Without any arguments the template
stands for itself.

Making a message fails where a directive is no directive, where an argument is missing or of
another kind than its letter asks for, and where an integer has too many digits to be written.
What was noted before the failure stays noted.
-/

namespace BridgedDenom

/-! ## Values in messages -/

namespace Value

/-- The text of a value in a message, if its integers are within a limit. -/
def displayWithin (limit : DigitLimit) (v : Value) : Attempt Text :=
  if v.hasText limit then v.display else throw .badValue

/-- The spelling of a value, if its integers are within a limit. -/
def literalWithin (limit : DigitLimit) (v : Value) : Except Failure Text :=
  if v.hasText limit then .ok v.literal else .error .badValue

/-- The number that a value is. -/
def number : Value → Except Failure Binary64
  | .float x => .ok x
  | v =>
      match v.integer? with
      | some n => (Binary64.ofInt? n).elim (.error .tooLarge) .ok
      | none => .error .wrongKind

/-- The integer that a value is. -/
def integer (v : Value) : Except Failure Int := v.integer?.elim (.error .wrongKind) .ok

/-- The number that a value is, without its fraction. -/
def wholeNumber : Value → Except Failure Int
  | .float x => (Value.float x).toInteger .unbounded
  | v => v.integer

/-- The character that a value is, or the code of which it is. -/
def character : Value → Except Failure Char
  | .text [c] => .ok c
  | v => do
      let code ← v.integer
      if 0 ≤ code ∧ code < 0x110000 then .ok (Text.charOfCode code.toNat) else .error .tooLarge

end Value

/-! ## Directives -/

namespace Template

/-- How the letter of a directive writes a value. -/
inductive Conversion where
  | display
  | literal
  | ascii
  | decimal
  /-- In another base, with a mark in front if asked for. -/
  | based (base : Nat) (mark : Text) (isUpper : Bool)
  | number (style : Binary64.Style) (isUpper : Bool)
  | character

def Conversion.letters : List (Char × Conversion) :=
  [('s', .display), ('r', .literal), ('a', .ascii),
   ('d', .decimal), ('i', .decimal), ('u', .decimal),
   ('o', .based 8 "0o".toList false), ('x', .based 16 "0x".toList false),
   ('X', .based 16 "0x".toList true),
   ('e', .number .scientific false), ('E', .number .scientific true),
   ('f', .number .fixed false), ('F', .number .fixed true),
   ('g', .number .general false), ('G', .number .general true),
   ('c', .character)]

/-- What is put in the place of a directive, before it is padded. -/
inductive Filling where
  | text (s : Text)
  /-- A number with its sign, the mark of its base, and its digits. -/
  | number (isNegative : Bool) (mark digits : Text)

/-- The flags of a directive with its width and precision. -/
structure Frame where
  flags : List Char
  width : Nat
  /-- What is padded is padded on the right. -/
  isLeft : Bool
  precision : Option Nat

namespace Frame

def has (frame : Frame) (flag : Char) : Bool := frame.flags.contains flag

/-- A text cut to the precision. -/
def cut (frame : Frame) (s : Text) : Filling :=
  .text (match frame.precision with
    | some most => s.take most
    | none => s)

/-- The greatest number of digits that an integer is filled up to. -/
def mostDigits : Nat := 0x7FFFFFFC

/-- An integer in a base, with at least as many digits as the precision says. -/
def based (frame : Frame) (base : Nat) (mark : Text) (n : Int) : Except Failure Filling :=
  let least := frame.precision.getD 0
  if least ≤ mostDigits then
    .ok (.number (n < 0) mark (Text.padLeft '0' least (Nat.toDigits base n.natAbs)))
  else .error .tooLarge

/-- The digits behind the point, or the digits of a number, if there is no precision. -/
def usualPrecision : Nat := 6

def number (frame : Frame) (style : Binary64.Style) (x : Binary64) : Filling :=
  .number x.isNegative []
    (style.unsigned (frame.precision.getD usualPrecision) (frame.has '#') x)

/-- Pad up to the width.  What fills it stands behind the front, unless it is blank. -/
def pad (frame : Frame) (filler : Char) (front body : Text) : Text :=
  let gap := frame.width - (front.length + body.length)
  if frame.isLeft then front ++ body ++ List.replicate gap ' '
  else if filler = ' ' then List.replicate gap ' ' ++ front ++ body
  else front ++ List.replicate gap filler ++ body

/-- The filling as it stands in the message.  Only numbers have signs and zeros in front. -/
def lay (frame : Frame) : Filling → Text
  | .text s => frame.pad ' ' [] s
  | .number isNegative mark digits =>
      let sign := if isNegative then ['-'] else if frame.has '+' then ['+']
        else if frame.has ' ' then [' '] else []
      frame.pad (if frame.has '0' then '0' else ' ') (sign ++ mark) digits

end Frame

def Filling.upper : Filling → Filling
  | .text s => .text s
  | .number isNegative mark digits =>
      .number isNegative (mark.map Char.toUpper) (digits.map Char.toUpper)

/-- Letters in upper case, if they are to be. -/
def Filling.inCase (isUpper : Bool) (filling : Filling) : Filling :=
  if isUpper then filling.upper else filling

/-- A value in the place of a directive. -/
def Conversion.fill (limit : DigitLimit) (frame : Frame) (v : Value) : Conversion → Attempt Filling
  | .display => return frame.cut (← v.displayWithin limit)
  | .literal => .ofExcept (return frame.cut (← v.literalWithin limit))
  | .ascii => .ofExcept (return frame.cut (← v.literalWithin limit).escaped)
  | .decimal => .ofExcept do
      let n ← v.wholeNumber
      let filling ← frame.based 10 [] n
      if (Decimal.written? limit n).isSome then pure filling else throw .badValue
  | .based base mark isUpper => .ofExcept do
      let n ← v.integer
      let filling ← frame.based base (if frame.has '#' then mark else []) n
      pure (filling.inCase isUpper)
  | .number style isUpper => .ofExcept do
      let x ← v.number
      pure ((frame.number style x).inCase isUpper)
  | .character => .ofExcept (return .text [← v.character])

/-! ## Arguments -/

/-- The arguments that are still there. -/
inductive Supply where
  | items (left : List Value)
  /-- The entries of a mapping, and what a directive without a key would take. -/
  | mapping (entries : Fields) (current : Option Value)

namespace Supply

/-- Take the next value. -/
def next : Supply → Except Failure (Value × Supply)
  | .items [] | .mapping _ none => .error .wrongKind
  | .items (v :: left) => .ok (v, .items left)
  | .mapping entries (some v) => .ok (v, .mapping entries none)

/-- Look for the value of a key, if there is a key. -/
def find : Template.Key → Supply → Except Failure Supply
  | .next, supply => .ok supply
  | _, .items _ => .error .wrongKind
  | .unended, .mapping .. => .error .badValue
  | .named key, .mapping entries _ =>
      match entries.get? key with
      | some v => .ok (.mapping entries (some v))
      | none => .error (.missingKey key)

/-- A width or a precision, which may be asked for.  It is below a limit and at least the opposite
of the limit. -/
def size (limit : Nat) : Size → Supply → Except Failure (Option Int × Supply)
  | .none, supply => .ok (none, supply)
  | .given n, supply => if n < limit then .ok (some n, supply) else .error .badValue
  | .asked, supply => do
      let (v, supply) ← supply.next
      let n ← v.integer
      if -limit ≤ n ∧ n < limit then .ok (some n, supply) else .error .tooLarge

/-- Nothing is left over that would have to be used. -/
def isSpent : Supply → Bool
  | .items left => left.isEmpty
  | .mapping .. => true

end Supply

/-- A bound that no width reaches. -/
def widthLimit : Nat := 0x8000000000000000

/-- A bound that no precision reaches. -/
def precisionLimit : Nat := 0x80000000

/-- The frame of a directive with these sizes.  A negative width pads on the right, and a
negative precision is zero.  The least width has no opposite and counts as none. -/
def Directive.frame (d : Directive) (width precision : Option Int) : Frame where
  flags := d.flags
  width := (width.getD 0).natAbs % widthLimit
  isLeft := d.flags.contains '-' || width.any (· < 0)
  precision := precision.map Int.toNat

/-- What a directive takes, and what is left of the arguments. -/
structure Taken where
  frame : Frame
  conversion : Conversion
  value : Value
  left : Supply

/-- Take what a directive asks for, in the order in which it is written. -/
def Directive.take (d : Directive) (supply : Supply) : Except Failure Taken := do
  let supply ← supply.find d.key
  let (width, supply) ← supply.size widthLimit d.width
  let (precision, supply) ← supply.size precisionLimit d.precision
  let some letter := d.letter | throw .badValue
  let (value, left) ← supply.next
  let some conversion := Conversion.letters.lookup letter | throw .badValue
  pure ⟨d.frame width precision, conversion, value, left⟩

/-- What stands in the place of a piece, and what is left of the arguments. -/
def Piece.fill (limit : DigitLimit) (supply : Supply) : Piece → Attempt (Text × Supply)
  | .char c => pure ([c], supply)
  | .directive d => do
      let taken ← .ofExcept (d.take supply)
      let filling ← taken.conversion.fill limit taken.frame taken.value
      pure (taken.frame.lay filling, taken.left)

/-- The pieces one after the other, with what is left of the arguments. -/
def fill (limit : DigitLimit) : List Piece → Supply → Attempt (Text × Supply)
  | [], supply => pure ([], supply)
  | piece :: rest, supply => do
      let (s, supply) ← piece.fill limit supply
      let (t, left) ← fill limit rest supply
      pure (s ++ t, left)

end Template

namespace Event

open Template (Supply)

/-- The arguments as they are there at first. -/
def supply (event : Event) : Supply :=
  match event.arguments with
  | [.mapping (entry :: rest)] =>
      .mapping (entry :: rest) (some (.mapping (entry :: rest)))
  | arguments => .items arguments

/-- The message of an event.  Without arguments the template stands for itself. -/
def message (limit : DigitLimit) (event : Event) : Attempt Text :=
  if event.arguments.isEmpty then pure event.template
  else do
    let (s, left) ← Template.fill limit (Template.pieces event.template) event.supply
    if left.isSpent then pure s else throw .wrongKind

/-- The last three have an argument left over, one of another kind, and one that is too long. -/
example :
    [("%s", [.text "x".toList]), ("%r and %-4x|", [.text "x".toList, .int 255]),
      ("hello", [.mapping [("a".toList, .int 1)]]),
      ("%(a)05d%%", [.mapping [("a".toList, .int (-7))]]), ("%*.2f", [.int 7, .int 2]),
      ("hello", [.text "x".toList]), ("%d", [.text "x".toList]),
      ("%s", [.int (Nat.pow 10 4300)])].map
      (fun (template, arguments) =>
        (message .usual ⟨Level.info, [], template.toList, arguments, []⟩).outcome.toOption)
    = [some "x", some "'x' and ff  |", some "hello", some "-0007%", some "   2.00", none, none,
       none].map (Option.map String.toList) := by
  decide +kernel

end Event

end BridgedDenom
