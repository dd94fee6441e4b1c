import BridgedDenom.Decimal.Shortest
import BridgedDenom.Denomination.Basic
import BridgedDenom.Text.Quoted

/-!
# Values

Callers hand over values of several kinds where the library wants bytes, text or
an integer, and error data and log fields keep such values as they came.  `Value`
is their union.  Byte strings come in three forms, which matter only for how a
value is shown and for which operations accept it.

A value has two texts.  The *literal* is the spelling under which it appears inside
a list.  The *plain* text is the spelling under which it appears in a message.
They differ for text, addresses and coins.  The plain text of a denomination is
not given here, since making it tries to read the denomination and reports a
failure.
-/

namespace BridgedDenom

inductive ByteForm where
  | fixed
  /-- A buffer whose bytes may be replaced. -/
  | buffer
  /-- A view of the bytes of another value. -/
  | view
deriving DecidableEq

inductive Value where
  | null
  | bool (b : Bool)
  | int (n : Int)
  | float (x : Binary64)
  | text (s : Text)
  /-- A day or a moment, as it was written. -/
  | time (written : Text)
  | bytes (form : ByteForm) (data : Bytes)
  /-- A denomination, which is also a byte string. -/
  | denom (d : Denomination)
  | address (a : Address)
  /-- A coin of a well-typed denomination and amount. -/
  | coin (name : Text) (amount : Int)
  | list (items : List Value)
  /-- A mapping with text keys, in order of insertion. -/
  | mapping (entries : List (Text × Value))

/-- Named values in order of insertion. -/
abbrev Fields := List (Text × Value)

namespace Value

/-! ## Kinds -/

/-- The name of the kind of a value. -/
def kindName : Value → Text
  | .null => "NoneType".toList
  | .bool _ => "bool".toList
  | .int _ => "int".toList
  | .float _ => "float".toList
  | .text _ => "str".toList
  | .time _ => "time".toList
  | .bytes .fixed _ => "bytes".toList
  | .bytes .buffer _ => "bytearray".toList
  | .bytes .view _ => "memoryview".toList
  | .denom _ => "PeggyDenom".toList
  | .address _ => "EthAddress".toList
  | .coin _ _ => "Coin".toList
  | .list _ => "list".toList
  | .mapping _ => "dict".toList

/-- The name of the kind with the module that it belongs to, if it is one of the
library's own. -/
def qualifiedKind (v : Value) : Text :=
  match v with
  | .denom _ => "peggy.denom.".toList ++ v.kindName
  | .address _ => "peggy.types.eth_address.".toList ++ v.kindName
  | .coin _ _ => "peggy.types.coin.".toList ++ v.kindName
  | _ => v.kindName

/-- The bytes of a byte string, in whatever form. -/
def byteString? : Value → Option Bytes
  | .bytes _ data => some data
  | .denom d => some d.bytes
  | _ => none

def isByteString (v : Value) : Bool := v.byteString?.isSome

/-- The integer a value is; truth values count as zero and one. -/
def integer? : Value → Option Int
  | .bool b => some b.toInt
  | .int n => some n
  | _ => none

/-- A value that counts as false: null, zero, and everything empty. -/
def isFalsy : Value → Bool
  | .null => true
  | .bool b => !b
  | .int n => n == 0
  | .float x => x.isZero
  | .text s => s.isEmpty
  | .time _ => false
  | .bytes _ data => data.isEmpty
  | .denom d => d.bytes.isEmpty
  | .address _ => false
  | .coin _ _ => false
  | .list items => items.isEmpty
  | .mapping entries => entries.isEmpty

/-! ## Spelling -/

/-- The spelling of a byte string by its form. -/
def bytesLiteral : ByteForm → Bytes → Text
  | .fixed, data => data.quoted
  | .buffer, data => "bytearray(".toList ++ data.quotedBuffer ++ ")".toList
  | .view, _ => "<memory>".toList

mutual

/-- The spelling of a value inside a list. -/
def literal : Value → Text
  | .null => "None".toList
  | .bool b => if b then "True".toList else "False".toList
  | .int n => Decimal.ofInt n
  | .float x => Binary64.shown.write x
  | .text s => s.quoted
  | .time written => written
  | .bytes form data => bytesLiteral form data
  | .denom d => "PeggyDenom(".toList ++ d.bytes.quoted ++ ")".toList
  | .address a => "EthAddress(raw=".toList ++ a.raw.quoted ++ ")".toList
  | .coin name amount =>
      "Coin(denom=".toList ++ name.quoted ++ ", amount=".toList ++ Decimal.ofInt amount
        ++ ")".toList
  | .list items => '[' :: Text.join ", ".toList (literals items) ++ [']']
  | .mapping entries => '\x7b' :: Text.join ", ".toList (entryLiterals entries) ++ ['\x7d']

def literals : List Value → List Text
  | [] => []
  | v :: rest => literal v :: literals rest

def entryLiterals : List (Text × Value) → List Text
  | [] => []
  | (key, v) :: rest => (key.quoted ++ ": ".toList ++ literal v) :: entryLiterals rest

end

/-- The spelling of a value in a message; for a denomination, its literal. -/
def plain : Value → Text
  | .text s => s
  | .address a => a.checksum
  | .coin name amount => Decimal.ofInt amount ++ name
  | v => v.literal

/-! ## Equality -/

/-- Two numbers are equal in value, whatever their kinds. -/
def sameNumber : Value → Value → Bool
  | .float x, .float y => x.equal y
  | .float x, v => v.integer?.any fun n => x.equalInt n
  | v, .float y => v.integer?.any fun n => y.equalInt n
  | v, w => v.integer?.any fun n => w.integer? == some n

mutual

/-- Equality as callers see it: numbers by value, byte strings by content, all
else by kind and content. -/
def same : Value → Value → Bool
  | .null, .null => true
  | .text s, .text t => s == t
  | .time s, .time t => s == t
  | .bytes _ x, .bytes _ y => x == y
  | .bytes _ x, .denom e => x == e.bytes
  | .denom d, .bytes _ y => d.bytes == y
  | .denom d, .denom e => d.bytes == e.bytes
  | .address a, .address b => a == b
  | .coin s m, .coin t n => s == t && m == n
  | .list xs, .list ys => sameAll xs ys
  | .mapping xs, .mapping ys => sameEntries xs ys
  | v, w => sameNumber v w

def sameAll : List Value → List Value → Bool
  | [], [] => true
  | v :: vs, w :: ws => same v w && sameAll vs ws
  | _, _ => false

def sameEntries : List (Text × Value) → List (Text × Value) → Bool
  | [], [] => true
  | (k, v) :: vs, (l, w) :: ws => k == l && same v w && sameEntries vs ws
  | _, _ => false

end

end Value

namespace Fields

/-- Set a field: in its place if the name is there, else at the end. -/
def set (fields : Fields) (name : Text) (v : Value) : Fields :=
  match fields with
  | [] => [(name, v)]
  | (key, old) :: rest =>
      if key = name then (name, v) :: rest else (key, old) :: set rest name v

/-- Set the fields of the second list one after the other. -/
def merge (fields later : Fields) : Fields :=
  later.foldl (fun acc (name, v) => set acc name v) fields

def get? (fields : Fields) (name : Text) : Option Value := fields.lookup name

@[simp] theorem merge_nil (fields : Fields) : merge fields [] = fields := rfl

theorem merge_append (fields first second : Fields) :
    merge fields (first ++ second) = merge (merge fields first) second := by
  simp [merge]

end Fields

example : (Value.list [.int 1, .text "a".toList, .null]).plain = "[1, 'a', None]".toList := by
  decide +kernel

end BridgedDenom
