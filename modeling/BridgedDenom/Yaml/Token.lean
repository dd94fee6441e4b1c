import BridgedDenom.Yaml.Cursor

/-!
# YAML tokens

A text is cut into tokens.  Indentation becomes visible in them: a deeper column
opens a block collection and a return to an earlier column closes it.

A colon comes after the key it belongs to, so every scalar and every opening
bracket that may turn out to be a key is remembered as a *candidate* with the place
of its token.  When the colon comes, the token of the key, and if need be that of a
new block mapping, are put in at that place.  A candidate is given up at the end of
its line or after 1024 characters.  Outside brackets a candidate at the column of
its block must become a key, and giving it up is a flaw.

The tokens end with the end of the text, or with the flaw at which the cutting breaks
off.  Then only the *settled* tokens before it count, those from the first candidate
on being still open.

Aliases, anchors, tags, block scalars and directives are not read.
-/

namespace BridgedDenom

open Text (Flaw)

namespace Yaml

inductive Token where
  | documentStart
  | documentEnd
  /-- A deeper column with list items. -/
  | blockSequenceStart
  /-- A deeper column with keys. -/
  | blockMappingStart
  /-- A return from a deeper column. -/
  | blockEnd
  | flowSequenceStart
  | flowSequenceEnd
  | flowMappingStart
  | flowMappingEnd
  /-- `-` in front of a list item. -/
  | blockEntry
  | flowEntry
  | key
  /-- `:` in front of a value. -/
  | value
  /-- A scalar, with or without quotes. -/
  | scalar (plain : Bool) (text : Text)
  | streamEnd
  /-- The flaw at which the cutting breaks off. -/
  | broken (flaw : Flaw)
deriving DecidableEq

/-- A token that may turn out to be a key. -/
structure Candidate where
  /-- The number of tokens before it. -/
  place : Nat
  /-- It must become a key. -/
  required : Bool
  /-- Where it starts in the text. -/
  index : Nat
  line : Nat
  /-- Where it starts in its line. -/
  column : Nat

/-- What is known halfway through a text. -/
structure Scan where
  cursor : Cursor
  /-- The column of the innermost block, below zero outside every block. -/
  indent : Int
  /-- The columns of the blocks around it. -/
  outer : List Int
  keyAllowed : Bool
  /-- The candidate of the innermost bracket, or of the block outside all. -/
  candidate : Option Candidate
  /-- The candidates around the brackets, innermost first. -/
  around : List (Option Candidate)
  tokens : List Token

namespace Scan

def inFlow (scan : Scan) : Bool := !scan.around.isEmpty

def start (s : Text) : Scan := ⟨⟨s, 0, 0, 0⟩, -1, [], true, none, [], []⟩

def push (scan : Scan) (token : Token) : Scan :=
  { scan with tokens := scan.tokens ++ [token] }

def insertAt (scan : Scan) (place : Nat) (token : Token) : Scan :=
  { scan with tokens := scan.tokens.take place ++ token :: scan.tokens.drop place }

def dropCandidate (scan : Scan) : Except Flaw Scan :=
  if scan.candidate.any Candidate.required then .error .form
  else .ok { scan with candidate := none }

/-- Remember the next token as a candidate, if a key may start here. -/
def saveCandidate (scan : Scan) : Except Flaw Scan :=
  if scan.keyAllowed then do
    let scan ← scan.dropCandidate
    let cursor := scan.cursor
    let required := !scan.inFlow && scan.indent == cursor.column
    let candidate : Candidate :=
      ⟨scan.tokens.length, required, cursor.index, cursor.line, cursor.column⟩
    pure { scan with candidate := some candidate }
  else pure scan

/-- A candidate on an earlier line or too far back. -/
def isStale (scan : Scan) (candidate : Candidate) : Bool :=
  candidate.line != scan.cursor.line || 1024 < scan.cursor.index - candidate.index

def dropStale (scan : Scan) : Except Flaw Scan :=
  if (scan.candidate :: scan.around).any fun c => c.any fun c => scan.isStale c && c.required then
    .error .form
  else
    let keep := fun c : Option Candidate => c.filter fun c => !scan.isStale c
    .ok { scan with candidate := keep scan.candidate, around := scan.around.map keep }

def unwindFrom (scan : Scan) (column : Int) : List Int → Scan
  | [] => scan
  | indent :: outer =>
      if column < scan.indent then
        unwindFrom { scan.push .blockEnd with indent := indent, outer := outer } column outer
      else scan

/-- Close the blocks deeper than a column, unless inside brackets. -/
def unwind (scan : Scan) (column : Int) : Scan :=
  if scan.inFlow then scan else unwindFrom scan column scan.outer

/-- Open a block at a column by a token at a place, if the column is deeper than that
of the innermost block. -/
def openBlock (scan : Scan) (column : Int) (place : Nat) (token : Token) : Scan :=
  if scan.indent < column then
    { scan.insertAt place token with indent := column, outer := scan.indent :: scan.outer }
  else scan

/-- Drop blanks, comments and line breaks.  After a line break outside brackets a key
may start. -/
def skipSpace : Nat → Scan → Scan
  | 0, scan => scan
  | fuel + 1, scan =>
      let (_, cursor) := scan.cursor.span (· == ' ')
      let cursor :=
        if cursor.peek 0 == some '#' then (cursor.span fun c => !isBreak c).2 else cursor
      match cursor.lineBreak with
      | ([], cursor) => { scan with cursor := cursor }
      | (_, cursor) =>
          skipSpace fuel { scan with cursor := cursor, keyAllowed := scan.keyAllowed || !scan.inFlow }

/-- Move on to the next token, closing blocks on the way. -/
def advance (scan : Scan) : Except Flaw Scan := do
  let cursor := scan.cursor
  let cursor := if cursor.index = 0 && cursor.peek 0 == some '\ufeff' then cursor.next else cursor
  let scan := skipSpace (cursor.rest.length + 1) { scan with cursor := cursor }
  let scan ← scan.dropStale
  pure (scan.unwind scan.cursor.column)

/-! ## One token -/

def marker (scan : Scan) (token : Token) : Except Flaw Scan := do
  let scan ← (scan.unwind (-1)).dropCandidate
  pure { scan.push token with keyAllowed := false, cursor := scan.cursor.skip 3 }

def openFlow (scan : Scan) (token : Token) : Except Flaw Scan := do
  let scan ← scan.saveCandidate
  pure { scan.push token with
    candidate := none, around := scan.candidate :: scan.around, keyAllowed := true,
    cursor := scan.cursor.next }

def closeFlow (scan : Scan) (token : Token) : Except Flaw Scan := do
  match scan.around with
  | [] => throw .form
  | candidate :: around =>
      pure { scan.push token with
        candidate := candidate, around := around, keyAllowed := false, cursor := scan.cursor.next }

def comma (scan : Scan) : Except Flaw Scan := do
  let scan ← scan.dropCandidate
  pure { scan.push .flowEntry with keyAllowed := true, cursor := scan.cursor.next }

/-- A dash in front of a list item.  Inside brackets it opens no block. -/
def dash (scan : Scan) : Except Flaw Scan := do
  if !scan.inFlow && !scan.keyAllowed then throw .form
  let scan :=
    if scan.inFlow then scan
    else scan.openBlock scan.cursor.column scan.tokens.length .blockSequenceStart
  let scan ← scan.dropCandidate
  pure { scan.push .blockEntry with keyAllowed := true, cursor := scan.cursor.next }

def question (scan : Scan) : Except Flaw Scan := do
  if !scan.inFlow && !scan.keyAllowed then throw .form
  let scan :=
    if scan.inFlow then scan
    else scan.openBlock scan.cursor.column scan.tokens.length .blockMappingStart
  let scan ← scan.dropCandidate
  pure { scan.push .key with keyAllowed := !scan.inFlow, cursor := scan.cursor.next }

def colon (scan : Scan) : Except Flaw Scan := do
  match scan.candidate with
  | some candidate =>
      let scan := { scan with candidate := none }.insertAt candidate.place .key
      let scan :=
        if scan.inFlow then scan
        else scan.openBlock candidate.column candidate.place .blockMappingStart
      pure { scan.push .value with keyAllowed := false, cursor := scan.cursor.next }
  | none =>
      if !scan.inFlow && !scan.keyAllowed then throw .form
      let scan :=
        if scan.inFlow then scan
        else scan.openBlock scan.cursor.column scan.tokens.length .blockMappingStart
      pure { scan.push .value with keyAllowed := !scan.inFlow, cursor := scan.cursor.next }

def quotedScalar (scan : Scan) (double : Bool) : Except Flaw Scan := do
  let scan ← scan.saveCandidate
  let (text, cursor) ← scan.cursor.next.quoted double
  pure { scan.push (.scalar false text) with keyAllowed := false, cursor := cursor }

def plainScalar (scan : Scan) : Except Flaw Scan := do
  let scan ← scan.saveCandidate
  let (text, cursor, broken) :=
    scan.cursor.plain scan.inFlow (scan.indent + 1) (scan.cursor.rest.length + 1) [] [] false
  pure { scan.push (.scalar true text) with keyAllowed := broken, cursor := cursor }

/-- A plain scalar starts with this character, before the next one. -/
def startsPlain (scan : Scan) (c : Char) (next : Option Char) : Bool :=
  (!isWhite c && !"-?:,[]\x7b\x7d#&*!|>'\"%@\x60".toList.contains c)
    || (!isWhiteOrEnd next && (c == '-' || (!scan.inFlow && (c == '?' || c == ':'))))

/-- The token that starts with a character. -/
def token (scan : Scan) (c : Char) : Except Flaw Scan :=
  let next := scan.cursor.peek 1
  if scan.cursor.column = 0 && scan.cursor.atMarker then
    scan.marker (if c == '-' then .documentStart else .documentEnd)
  else if c == '[' then scan.openFlow .flowSequenceStart
  else if c == '\x7b' then scan.openFlow .flowMappingStart
  else if c == ']' then scan.closeFlow .flowSequenceEnd
  else if c == '\x7d' then scan.closeFlow .flowMappingEnd
  else if c == ',' then scan.comma
  else if c == '-' && isWhiteOrEnd next then scan.dash
  else if c == '?' && (scan.inFlow || isWhiteOrEnd next) then scan.question
  else if c == ':' && (scan.inFlow || isWhiteOrEnd next) then scan.colon
  else if c == '\'' || c == '"' then scan.quotedScalar (c == '"')
  else if scan.startsPlain c next then scan.plainScalar
  else .error .form

/-- The number of settled tokens: those before every candidate. -/
def settled (scan : Scan) : Nat :=
  ((scan.candidate :: scan.around).filterMap fun c =>
    (c.filter fun c => !scan.isStale c).map Candidate.place).foldl min scan.tokens.length

/-- The tokens where the cutting breaks off. -/
def breakOff (scan : Scan) (flaw : Flaw) : List Token :=
  scan.tokens.take scan.settled ++ [.broken flaw]

/-- All tokens, at most as many as fuel from here on. -/
def run : Nat → Scan → List Token
  | 0, scan => scan.breakOff .form
  | fuel + 1, scan =>
      match scan.advance with
      | .error flaw => scan.breakOff flaw
      | .ok there =>
          match there.cursor.rest with
          | [] =>
              match (there.unwind (-1)).dropCandidate with
              | .error flaw => scan.breakOff flaw
              | .ok done => done.tokens ++ [.streamEnd]
          | c :: _ =>
              match there.token c with
              | .error flaw => scan.breakOff flaw
              | .ok after => run fuel after

end Scan

/-- The tokens of a text.  Each is at least one character long. -/
def Token.ofText (s : Text) : List Token :=
  if s.all isAllowed then Scan.run (s.length + 1) (Scan.start s) else [.broken .form]

example : Token.ofText "a: [b, 'c']\n".toList
    = [.blockMappingStart, .key, .scalar true ['a'], .value, .flowSequenceStart,
        .scalar true ['b'], .flowEntry, .scalar false ['c'], .flowSequenceEnd, .blockEnd,
        .streamEnd] := by
  decide +kernel
/-- The list may be a key as a whole until the line ends, so nothing of it is settled. -/
example : (Token.ofText "[a, \"\\Uffffffff\"".toList, Token.ofText "- [a, @".toList)
    = ([.broken .size], [.blockSequenceStart, .blockEntry, .broken .form]) := by
  decide +kernel

end Yaml

end BridgedDenom
