import BridgedDenom.Yaml.Token

/-!
# YAML nodes

The tokens of a text make one document, between optional markers, and the document
is a tree of *nodes*: scalars as they are spelled, lists, and mappings with their
entries in order.  A collection is written in block form, by indentation, or in flow
form, in brackets; a flow form holds flow forms only.  Where a key, a value or a list
item is missing an empty scalar stands for it.

Every reader below fails at a token that has no place where it stands.  At the token
of a flaw it fails with that flaw.  One bracket or block inside too many others is a
flaw of depth; the tokens are broken off there before they are read.

Each call of a reader either takes a token or is made by one that did, so three times
the number of tokens bounds the depth of the calls.
-/

namespace BridgedDenom

open Text (Flaw)

namespace Yaml

/-! ## Nesting -/

/-- The most brackets and blocks that may stand inside one another. -/
def nestingLimit : Nat := 488

def Token.opens : Token → Bool
  | .blockSequenceStart | .blockMappingStart | .flowSequenceStart | .flowMappingStart => true
  | _ => false

def Token.closes : Token → Bool
  | .blockEnd | .flowSequenceEnd | .flowMappingEnd => true
  | _ => false

/-- The tokens up to the first that opens something without room for it. -/
def Token.within : Nat → List Token → List Token
  | _, [] => []
  | room, token :: rest =>
      if token.opens then
        match room with
        | 0 => [.broken .depth]
        | room + 1 => token :: within room rest
      else if token.closes then token :: within (room + 1) rest
      else token :: within room rest

/-! ## Nodes -/

inductive Node where
  /-- A scalar, with or without quotes. -/
  | scalar (plain : Bool) (text : Text)
  | sequence (items : List Node)
  | mapping (entries : List (Node × Node))

namespace Node

def missing : Node := .scalar true []

/-- The failure at the first of some tokens. -/
def unexpected {α : Type} : List Token → Except Flaw α
  | .broken flaw :: _ => .error flaw
  | _ => .error .form

/-- The first token is one of these. -/
def stopsAt (stops tokens : List Token) : Bool := tokens.head?.any stops.contains

/-- What may follow a missing key or value in a block. -/
def blockStops : List Token := [.key, .value, .blockEnd]

mutual

/-- A node at the start of the tokens, and what follows it.  In a mapping a list may
stand at the column of the keys. -/
def read : Nat → Bool → Bool → List Token → Except Flaw (Node × List Token)
  | 0, _, _, _ => .error .form
  | depth + 1, inBlock, inMapping, tokens =>
      match tokens with
      | .scalar plain s :: rest => .ok (.scalar plain s, rest)
      | .flowSequenceStart :: rest => do
          let (items, rest) ← flowItems depth true rest
          pure (.sequence items, rest)
      | .flowMappingStart :: rest => do
          let (entries, rest) ← flowEntries depth true rest
          pure (.mapping entries, rest)
      | .blockSequenceStart :: rest =>
          if inBlock then do
            let (items, rest) ← blockItems depth rest
            pure (.sequence items, rest)
          else .error .form
      | .blockMappingStart :: rest =>
          if inBlock then do
            let (entries, rest) ← blockEntries depth rest
            pure (.mapping entries, rest)
          else .error .form
      | .blockEntry :: _ =>
          if inMapping then do
            let (items, rest) ← flatItems depth tokens
            pure (.sequence items, rest)
          else .error .form
      | tokens => unexpected tokens

/-- A node, or an empty scalar if the tokens stop. -/
def readOrMissing :
    Nat → Bool → Bool → List Token → List Token → Except Flaw (Node × List Token)
  | 0, _, _, _, _ => .error .form
  | depth + 1, inBlock, inMapping, stops, tokens =>
      if stopsAt stops tokens then .ok (missing, tokens) else read depth inBlock inMapping tokens

/-- What stands after a key: a colon and a value, or nothing. -/
def readValue :
    Nat → Bool → Bool → List Token → List Token → Except Flaw (Node × List Token)
  | 0, _, _, _, _ => .error .form
  | depth + 1, inBlock, inMapping, stops, tokens =>
      match tokens with
      | .value :: rest => readOrMissing depth inBlock inMapping stops rest
      | tokens => .ok (missing, tokens)

def blockItems : Nat → List Token → Except Flaw (List Node × List Token)
  | 0, _ => .error .form
  | depth + 1, tokens =>
      match tokens with
      | .blockEntry :: rest => do
          let (item, rest) ← readOrMissing depth true false [.blockEntry, .blockEnd] rest
          let (items, rest) ← blockItems depth rest
          pure (item :: items, rest)
      | .blockEnd :: rest => .ok ([], rest)
      | tokens => unexpected tokens

/-- The items of a list at the column of the keys around it. -/
def flatItems : Nat → List Token → Except Flaw (List Node × List Token)
  | 0, _ => .error .form
  | depth + 1, tokens =>
      match tokens with
      | .blockEntry :: rest => do
          let (item, rest) ← readOrMissing depth true false (.blockEntry :: blockStops) rest
          let (items, rest) ← flatItems depth rest
          pure (item :: items, rest)
      | tokens => .ok ([], tokens)

def blockEntries : Nat → List Token → Except Flaw (List (Node × Node) × List Token)
  | 0, _ => .error .form
  | depth + 1, tokens =>
      match tokens with
      | .key :: rest => do
          let (key, rest) ← readOrMissing depth true true blockStops rest
          let (value, rest) ← readValue depth true true blockStops rest
          let (entries, rest) ← blockEntries depth rest
          pure ((key, value) :: entries, rest)
      | .blockEnd :: rest => .ok ([], rest)
      | tokens => unexpected tokens

/-- The items of a flow list.  A key in front of an item makes it a mapping of one
entry. -/
def flowItems : Nat → Bool → List Token → Except Flaw (List Node × List Token)
  | 0, _, _ => .error .form
  | depth + 1, isFirst, tokens =>
      match isFirst, tokens with
      | _, .flowSequenceEnd :: rest => .ok ([], rest)
      | false, .flowEntry :: rest => flowItems depth true rest
      | false, tokens => unexpected tokens
      | true, .key :: rest => do
          let (key, rest) ←
            readOrMissing depth false false [.value, .flowEntry, .flowSequenceEnd] rest
          let (value, rest) ← readValue depth false false [.flowEntry, .flowSequenceEnd] rest
          let (items, rest) ← flowItems depth false rest
          pure (.mapping [(key, value)] :: items, rest)
      | true, tokens => do
          let (item, rest) ← read depth false false tokens
          let (items, rest) ← flowItems depth false rest
          pure (item :: items, rest)

/-- The entries of a flow mapping.  A lone node is a key without value. -/
def flowEntries : Nat → Bool → List Token → Except Flaw (List (Node × Node) × List Token)
  | 0, _, _ => .error .form
  | depth + 1, isFirst, tokens =>
      match isFirst, tokens with
      | _, .flowMappingEnd :: rest => .ok ([], rest)
      | false, .flowEntry :: rest => flowEntries depth true rest
      | false, tokens => unexpected tokens
      | true, .key :: rest => do
          let (key, rest) ←
            readOrMissing depth false false [.value, .flowEntry, .flowMappingEnd] rest
          let (value, rest) ← readValue depth false false [.flowEntry, .flowMappingEnd] rest
          let (entries, rest) ← flowEntries depth false rest
          pure ((key, value) :: entries, rest)
      | true, tokens => do
          let (key, rest) ← read depth false false tokens
          let (entries, rest) ← flowEntries depth false rest
          pure ((key, missing) :: entries, rest)

end

/-- The root of a document, and what follows it. -/
def root (tokens : List Token) : Except Flaw (Node × List Token) :=
  read (3 * tokens.length + 3) true false tokens

/-- The root, if nothing but end markers follows it. -/
def closed (found : Node × List Token) : Except Flaw Node :=
  match found.2.dropWhile (· == .documentEnd) with
  | .streamEnd :: _ => .ok found.1
  | tokens => unexpected tokens

/-- The one document of a stream of tokens; an empty scalar if there is none. -/
def ofTokens (tokens : List Token) : Except Flaw Node :=
  match tokens with
  | .streamEnd :: _ => .ok missing
  | .documentStart :: rest =>
      if stopsAt [.documentStart, .documentEnd, .streamEnd] rest then closed (missing, rest)
      else do closed (← root rest)
  | tokens => do closed (← root tokens)

def ofText (s : Text) : Except Flaw Node :=
  ofTokens (Token.within nestingLimit (Token.ofText s))

example : [1, 2].map (fun room =>
      match ofTokens (Token.within room (Token.ofText "- [a]\n- [b]\n".toList)) with
      | .error flaw => some flaw
      | .ok _ => none) = [some .depth, none] := by
  decide +kernel

end Node

end Yaml

end BridgedDenom
