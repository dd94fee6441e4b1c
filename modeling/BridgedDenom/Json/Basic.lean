import BridgedDenom.Decimal.Shortest
import BridgedDenom.Json.Text

/-!
# JSON documents

A document is written in one of two ways: *compact*, on one line without blanks, or
*pretty*, with every item and entry on a line of its own, indented by two blanks a
level.  Entries are written in the order in which they stand.
-/

namespace BridgedDenom

inductive Json where
  | null
  | bool (b : Bool)
  /-- A number without fraction and exponent. -/
  | int (n : Int)
  /-- Any other number. -/
  | float (x : Binary64)
  | text (s : Text)
  | list (items : List Json)
  /-- An object, its entries in order. -/
  | object (entries : List (Text × Json))

namespace Json

/-- A document that has no parts. -/
def scalar : Json → Text
  | .null => "null".toList
  | .bool b => if b then "true".toList else "false".toList
  | .int n => Decimal.ofInt n
  | .float x => Binary64.inJson.write x
  | .text s => quoted s
  | .list _ => "[]".toList
  | .object _ => ['\x7b', '\x7d']

mutual

def compact : Json → Text
  | .list items => '[' :: Text.join [','] (compactItems items) ++ [']']
  | .object entries => '\x7b' :: Text.join [','] (compactEntries entries) ++ ['\x7d']
  | document => document.scalar

def compactItems : List Json → List Text
  | [] => []
  | item :: rest => compact item :: compactItems rest

def compactEntries : List (Text × Json) → List Text
  | [] => []
  | (key, document) :: rest => (quoted key ++ ':' :: compact document) :: compactEntries rest

end

def newLine (indent : Nat) : Text := '\n' :: List.replicate indent ' '

mutual

/-- A document on several lines, from an indentation on. -/
def prettyFrom (indent : Nat) : Json → Text
  | .list (item :: rest) =>
      '[' :: newLine (indent + 2)
        ++ Text.join (',' :: newLine (indent + 2)) (prettyItems (indent + 2) (item :: rest))
        ++ newLine indent ++ [']']
  | .object (entry :: rest) =>
      '\x7b' :: newLine (indent + 2)
        ++ Text.join (',' :: newLine (indent + 2)) (prettyEntries (indent + 2) (entry :: rest))
        ++ newLine indent ++ ['\x7d']
  | document => document.scalar

def prettyItems (indent : Nat) : List Json → List Text
  | [] => []
  | item :: rest => prettyFrom indent item :: prettyItems indent rest

def prettyEntries (indent : Nat) : List (Text × Json) → List Text
  | [] => []
  | (key, document) :: rest =>
      (quoted key ++ ": ".toList ++ prettyFrom indent document) :: prettyEntries indent rest

end

def pretty (document : Json) : Text := document.prettyFrom 0

example : (Json.object [("a".toList, .list [.int 1, .null]), ("b".toList, .object [])]).compact
    = "\x7b\"a\":[1,null],\"b\":\x7b\x7d\x7d".toList := by decide +kernel
example : (Json.object [("a".toList, .object [("b".toList, .text [])])]).pretty
    = "\x7b\n  \"a\": \x7b\n    \"b\": \"\"\n  \x7d\n\x7d".toList := by decide +kernel

end Json

end BridgedDenom
