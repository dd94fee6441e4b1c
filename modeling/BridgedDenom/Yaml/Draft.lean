import BridgedDenom.Yaml.Node
import BridgedDenom.Yaml.Scalar

/-!
# Drafts of values

A draft is what a node stands for, in which scalars may still have no value and
mappings may still be refused.

*Keys.*  A key is a scalar and is known by the plain text of its value; a single
equals sign is a key like any text.

*Merging.*  The key `<<` without quotes takes over the entries of its value: a
mapping, or a list of mappings of which earlier ones go before later ones.  The
entries taken over stand in front of the mapping's own, so that its own ones win.  A
mapping in which there is nothing to take over under that key is refused.

*Order of flaws.*  A draft is looked through level by level, from the root down, each
level from left to right.  A flaw of a scalar belongs to the level of the scalar, one
of a key to the level of the entries, and a refused mapping to the level below its
own.
-/

namespace BridgedDenom

open Text (Flaw)

namespace Yaml

/-- A value that may have flaws in it. -/
inductive Draft where
  | leaf (value : Except Flaw Value)
  | list (items : List Draft)
  | mapping (entries : List (Except Flaw Text × Draft))
  /-- A mapping with nothing to take over where it should take something over. -/
  | refused

namespace Draft

/-! ## Making -/

/-- The entries of drafts in their order, if all are mappings. -/
def entriesOf? : List Draft → Option (List (Except Flaw Text × Draft))
  | [] => some []
  | .mapping entries :: rest => (entriesOf? rest).map fun others => others ++ entries
  | _ => none

/-- The entries that a mapping takes over from a draft. -/
def takenOver? : Draft → Option (List (Except Flaw Text × Draft))
  | .mapping entries => some entries
  | .list items => entriesOf? items
  | .leaf _ | .refused => none

/-- The text by which a key is known. -/
def keyText : Node → Except Flaw Text
  | .scalar true s => if s = ['='] then .ok s else (plainValue s).map Value.plain
  | .scalar false s => .ok s
  | .sequence _ | .mapping _ => .error .form

def takesOver : Node → Bool
  | .scalar true s => s == "<<".toList
  | _ => false

/-- The entries of a mapping: those taken over, and its own. -/
structure Entries where
  /-- Entries taken over from other mappings. -/
  taken : List (Except Flaw Text × Draft)
  own : List (Except Flaw Text × Draft)

mutual

def ofNode : Node → Draft
  | .scalar true s => .leaf (plainValue s)
  | .scalar false s => .leaf (.ok (.text s))
  | .sequence items => .list (ofItems items)
  | .mapping entries =>
      match ofEntries? entries with
      | some found => .mapping (found.taken ++ found.own)
      | none => .refused

def ofItems : List Node → List Draft
  | [] => []
  | item :: rest => ofNode item :: ofItems rest

/-- The drafts of the entries of a mapping, unless it is refused. -/
def ofEntries? : List (Node × Node) → Option Entries
  | [] => some ⟨[], []⟩
  | (key, value) :: rest => do
      let draft := ofNode value
      if takesOver key then
        let taken ← takenOver? draft
        let others ← ofEntries? rest
        pure ⟨taken ++ others.taken, others.own⟩
      else
        let others ← ofEntries? rest
        pure ⟨others.taken, (keyText key, draft) :: others.own⟩

end

/-! ## Flaws -/

/-- The levels of what stands on the left followed by those on the right. -/
def beside : List (List Flaw) → List (List Flaw) → List (List Flaw)
  | [], right => right
  | left, [] => left
  | first :: left, second :: right => (first ++ second) :: beside left right

/-- A level with the flaw of something read in vain. -/
def flawOf {α : Type} : Except Flaw α → List (List Flaw)
  | .ok _ => []
  | .error flaw => [[flaw]]

mutual

/-- The flaws of a draft by level. -/
def levels : Draft → List (List Flaw)
  | .leaf value => flawOf value
  | .list items => [] :: itemLevels items
  | .mapping entries => [] :: entryLevels entries
  | .refused => [[], [.form]]

def itemLevels : List Draft → List (List Flaw)
  | [] => []
  | item :: rest => beside (levels item) (itemLevels rest)

def entryLevels : List (Except Flaw Text × Draft) → List (List Flaw)
  | [] => []
  | (key, value) :: rest => beside (flawOf key) (beside (levels value) (entryLevels rest))

end

def flaw? (draft : Draft) : Option Flaw := draft.levels.flatten.head?

/-! ## Value -/

mutual

/-- The value of a draft, in which null stands for what has none.  If a key is
repeated the last entry counts. -/
def content : Draft → Value
  | .leaf (.ok v) => v
  | .leaf (.error _) => .null
  | .list items => .list (itemContents items)
  | .mapping entries => .mapping (Fields.merge [] (entryContents entries))
  | .refused => .null

def itemContents : List Draft → List Value
  | [] => []
  | item :: rest => content item :: itemContents rest

def entryContents : List (Except Flaw Text × Draft) → Fields
  | [] => []
  | (.ok key, value) :: rest => (key, content value) :: entryContents rest
  | (.error _, _) :: rest => entryContents rest

end

def value (draft : Draft) : Except Flaw Value :=
  match draft.flaw? with
  | some flaw => .error flaw
  | none => .ok draft.content

/-- A deeper flaw comes after every flaw above it, wherever it stands. -/
example : (Draft.list [.list [.leaf (.error .form)], .leaf (.error .size)]).flaw? = some .size := by
  decide
/-- A refused mapping is seen when its own entries would be. -/
example : [[Draft.refused, .leaf (.error .value)], [.refused, .list [.leaf (.error .value)]]].map
    (fun items => (Draft.list items).flaw?) = [some .value, some .form] := by
  decide

end Draft

end Yaml

end BridgedDenom
