import BridgedDenom.Bytes.Hex
import BridgedDenom.Text.Flaw
import BridgedDenom.Text.Surrogate

/-!
# Places in a YAML text

A cursor is what is left of the text together with the place where it starts.  The
end of the text counts as a blank.  Five characters break a line, and a carriage
return before a line feed breaks it together with that.

Scalars that may run over several lines are read here.  A line break inside one is
folded: a single break is a blank, and of several breaks the first is dropped.

An escape gives a character by its code, or half of a pair by that of a surrogate.
A code beyond all characters is a flaw, of size if it takes all of 32 bits and else of
value.
-/

namespace BridgedDenom

open Text (Flaw)

namespace Yaml

def isBreak (c : Char) : Bool :=
  c == '\n' || c == '\r' || c == '\u0085' || c == '\u2028' || c == '\u2029'

/-- A blank, a tab or a line break. -/
def isWhite (c : Char) : Bool := c == ' ' || c == '\t' || isBreak c

def isWhiteOrEnd (c : Option Char) : Bool := c.all isWhite

/-- A character that may occur in a YAML text. -/
def isAllowed (c : Char) : Bool :=
  c == '\t' || c == '\n' || c == '\r' || (0x20 ≤ c.toNat && c.toNat ≤ 0x7E) || c == '\u0085'
    || (0xA0 ≤ c.toNat && c.toNat ≤ 0xFFFD) || 0x10000 ≤ c.toNat

/-- What is left of a text, and where it starts. -/
structure Cursor where
  rest : Text
  /-- The number of characters before it. -/
  index : Nat
  /-- The number of lines before it. -/
  line : Nat
  /-- The number of characters before it in its line. -/
  column : Nat

namespace Cursor

def peek (cursor : Cursor) (distance : Nat) : Option Char := cursor.rest[distance]?

def next (cursor : Cursor) : Cursor :=
  match cursor.rest with
  | [] => cursor
  | c :: rest =>
      if isBreak c && !(c == '\r' && rest.head? == some '\n') then
        ⟨rest, cursor.index + 1, cursor.line + 1, 0⟩
      else if c == '\ufeff' then ⟨rest, cursor.index + 1, cursor.line, cursor.column⟩
      else ⟨rest, cursor.index + 1, cursor.line, cursor.column + 1⟩

def skip : Nat → Cursor → Cursor
  | 0, cursor => cursor
  | n + 1, cursor => skip n cursor.next

/-- The characters of a class at the cursor, and the cursor behind them. -/
def span (cursor : Cursor) (p : Char → Bool) : Text × Cursor :=
  let taken := cursor.rest.takeWhile p
  (taken, skip taken.length cursor)

/-- A line break at the cursor as the text it stands for, and the cursor behind it.
There the text is empty if no line break is at the cursor. -/
def lineBreak (cursor : Cursor) : Text × Cursor :=
  match cursor.rest with
  | '\r' :: '\n' :: _ => (['\n'], skip 2 cursor)
  | c :: _ =>
      if c == '\u2028' || c == '\u2029' then ([c], cursor.next)
      else if isBreak c then (['\n'], cursor.next)
      else ([], cursor)
  | [] => ([], cursor)

/-- `---` or `...` followed by white. -/
def atMarker (cursor : Cursor) : Bool :=
  ("---".toList.isPrefixOf cursor.rest || "...".toList.isPrefixOf cursor.rest)
    && isWhiteOrEnd (cursor.peek 3)

/-- What stands for a line break followed by more breaks. -/
def folded (first breaks : Text) : Text :=
  if first != ['\n'] then first ++ breaks
  else if breaks.isEmpty then [' ']
  else breaks

/-! ## Plain scalars -/

/-- Blanks and line breaks between two lines of a plain scalar.  There is no result
at the marker of a document. -/
def plainBreaks : Nat → Cursor → Text → Option Text × Cursor
  | 0, cursor, _ => (none, cursor)
  | fuel + 1, cursor, breaks =>
      match cursor.rest with
      | [] => (some breaks, cursor)
      | c :: _ =>
          if c == ' ' then plainBreaks fuel cursor.next breaks
          else if isBreak c then
            let (text, cursor) := cursor.lineBreak
            if cursor.atMarker then (none, cursor) else plainBreaks fuel cursor (breaks ++ text)
          else (some breaks, cursor)

/-- What stands between two runs of a plain scalar: blanks, or line breaks.  Tells
also whether there was a line break. -/
def plainSpaces (cursor : Cursor) : Text × Cursor × Bool :=
  let (blanks, cursor) := cursor.span (· == ' ')
  if cursor.rest.head?.any isBreak then
    let (first, cursor) := cursor.lineBreak
    if cursor.atMarker then ([], cursor, true)
    else
      match plainBreaks (cursor.rest.length + 1) cursor [] with
      | (some breaks, cursor) => (folded first breaks, cursor, true)
      | (none, cursor) => ([], cursor, true)
  else (blanks, cursor, false)

/-- The characters of a plain scalar up to white, a colon that ends a key, or, inside
brackets, a character with a meaning there. -/
def plainRun (inFlow : Bool) : Text → Text
  | [] => []
  | c :: rest =>
      let endsKey := c == ':' &&
        (isWhiteOrEnd rest.head? || (inFlow && rest.head?.any fun d => ",[]\x7b\x7d".toList.contains d))
      if isWhite c || endsKey || (inFlow && ",?[]\x7b\x7d".toList.contains c) then []
      else c :: plainRun inFlow rest

/-- A plain scalar whose following lines are indented at least so far, the cursor
behind it, and whether a line break came last. -/
def plain (inFlow : Bool) (indent : Int) : Nat → Cursor → Text → Text → Bool → Text × Cursor × Bool
  | 0, cursor, _, taken, broken => (taken, cursor, broken)
  | fuel + 1, cursor, spaces, taken, broken =>
      let run := if cursor.peek 0 == some '#' then [] else plainRun inFlow cursor.rest
      if run.isEmpty then (taken, cursor, broken)
      else
        let taken := taken ++ spaces ++ run
        let (spaces, cursor, broken) := (skip run.length cursor).plainSpaces
        if spaces.isEmpty || cursor.peek 0 == some '#' || (!inFlow && cursor.column < indent) then
          (taken, cursor, broken)
        else plain inFlow indent fuel cursor spaces taken broken

/-! ## Quoted scalars -/

/-- The escapes by one letter. -/
def escapes : List (Char × Char) :=
  [('0', '\x00'), ('a', '\x07'), ('b', '\x08'), ('t', '\t'), ('\t', '\t'), ('n', '\n'),
   ('v', '\x0b'), ('f', '\x0c'), ('r', '\r'), ('e', '\x1b'), (' ', ' '), ('"', '"'),
   ('\\', '\\'), ('/', '/'), ('N', '\u0085'), ('_', '\u00a0'), ('L', '\u2028'), ('P', '\u2029')]

/-- The number of hex digits after a letter. -/
def escapeWidth? (letter : Char) : Option Nat := [('x', 2), ('u', 4), ('U', 8)].lookup letter

def codeOfHex (digits : Text) : Except Flaw Nat :=
  let code := digits.foldl (fun n c => 16 * n + (Hex.value? c).getD 0) 0
  if !digits.all Hex.isDigit then .error .form
  else if code ≤ 0x10FFFF then .ok code
  else if code ≤ 0x7FFFFFFF then .error .value
  else .error .size

/-- Line breaks and the blanks between them inside a quoted scalar. -/
def quotedBreaks : Nat → Cursor → Text → Option (Text × Cursor)
  | 0, _, _ => none
  | fuel + 1, cursor, breaks =>
      if cursor.atMarker then none
      else
        let (_, cursor) := cursor.span fun c => c == ' ' || c == '\t'
        if cursor.rest.head?.any isBreak then
          let (text, cursor) := cursor.lineBreak
          quotedBreaks fuel cursor (breaks ++ text)
        else some (breaks, cursor)

/-- The codes of a quoted scalar after its opening quote, added to those taken, and
the cursor behind its closing one.  In double quotes a backslash escapes; in single
quotes two quotes are one. -/
def quotedCodes (double : Bool) : Nat → Cursor → List Nat → Except Flaw (List Nat × Cursor)
  | 0, _, _ => .error .form
  | fuel + 1, cursor, taken =>
      match cursor.rest with
      | [] => .error .form
      | c :: _ =>
          if c == (if double then '"' else '\'') then
            if !double && cursor.peek 1 == some '\'' then
              quotedCodes double fuel (skip 2 cursor) (taken ++ ['\''.toNat])
            else .ok (taken, cursor.next)
          else if double && c == '\\' then
            match cursor.peek 1 with
            | none => .error .form
            | some letter =>
                match escapes.lookup letter, escapeWidth? letter with
                | some char, _ => quotedCodes double fuel (skip 2 cursor) (taken ++ [char.toNat])
                | none, some width =>
                    let digits := (cursor.rest.drop 2).take width
                    if digits.length = width then do
                      let code ← codeOfHex digits
                      quotedCodes double fuel (skip (2 + width) cursor) (taken ++ [code])
                    else .error .form
                | none, none =>
                    if isBreak letter then do
                      let (_, cursor) := cursor.next.lineBreak
                      let (breaks, cursor) ←
                        Flaw.require (quotedBreaks (cursor.rest.length + 1) cursor [])
                      quotedCodes double fuel cursor (taken ++ breaks.map Char.toNat)
                    else .error .form
          else if isWhite c then
            let (blanks, cursor) := cursor.span fun c => c == ' ' || c == '\t'
            match cursor.rest with
            | [] => .error .form
            | d :: _ =>
                if isBreak d then do
                  let (first, cursor) := cursor.lineBreak
                  let (breaks, cursor) ←
                    Flaw.require (quotedBreaks (cursor.rest.length + 1) cursor [])
                  quotedCodes double fuel cursor (taken ++ (folded first breaks).map Char.toNat)
                else quotedCodes double fuel cursor (taken ++ blanks.map Char.toNat)
          else quotedCodes double fuel cursor.next (taken ++ [c.toNat])

/-- A quoted scalar after its opening quote, and the cursor behind its closing one. -/
def quoted (double : Bool) (cursor : Cursor) : Except Flaw (Text × Cursor) := do
  let (codes, cursor) ← quotedCodes double (cursor.rest.length + 1) cursor []
  pure (Text.ofCodes codes, cursor)

end Cursor

end Yaml

end BridgedDenom
