import BridgedDenom.Fault.Basic

/-!
# Failures

Everything that can go wrong, by cause.  The faults of the library's own family
are one constructor; the others say that a caller handed over a value of the wrong
kind, that a value is outside what an operation is defined on, that something
asked for does not exist, or that a file cannot be read.

Not every failure has a message: those that only say that an operation makes no
sense on its arguments have none.
-/

namespace BridgedDenom

/-- Why an operation failed. -/
inductive Failure where
  /-- A fault of the library's own family. -/
  | fault (fault : Fault)
  /-- An operation is not defined on a value of this kind. -/
  | wrongKind
  /-- Hex is made of byte strings only. -/
  | hexOfOther
  /-- Hex is read from text only. -/
  | hexFromOther
  /-- A value of the given kind has no octets. -/
  | noOctets (kind : Text)
  /-- A value of the given kind has no place in the order of addresses. -/
  | unordered (kind : Text)
  /-- The amount of a new token is not an integer. -/
  | amountKind
  /-- A value has the right kind and no meaning. -/
  | badValue
  /-- A hex text breaks at a position. -/
  | badHex (position : Nat)
  /-- A byte string of a given name has the wrong length. -/
  | wrongLength (name : Text) (expected : Int) (actual : Nat)
  /-- The amount of a new token does not fit in 64 bits. -/
  | amountRange (amount : Int)
  /-- No log level has the quoted name. -/
  | unknownLevel (quoted : Text)
  /-- A package has no member of the quoted name. -/
  | unknownName (package quoted : Text)
  /-- A value has no operation of the kind asked for. -/
  | noOperation
  | missingKey (key : Text)
  /-- A log field has the name of a part of every log record. -/
  | reservedField (name : Text)
  /-- A letter lies beyond the digest that decides its case. -/
  | beyondDigest
  | tooLarge
  | tooDeep
  | notText
  | isDirectory
  | notFound (path : Text)

namespace Failure

/-- The message of a failure, if it has one. -/
def message? : Failure → Option Text
  | fault f => some f.message
  | hexOfOther => some "to_hex expects bytes-like".toList
  | hexFromOther => some "from_hex expects str".toList
  | noOctets kind =>
      some ("unsupported type for b(): <class '".toList ++ kind ++ "'>".toList)
  | unordered kind => some ("cannot order ".toList ++ kind ++ " as an address".toList)
  | amountKind => some "ERC20Token.new amount must be an int".toList
  | badHex position =>
      some ("invalid hex string: non-hexadecimal number found in fromhex() arg at position ".toList
        ++ Decimal.ofNat position)
  | wrongLength name expected actual =>
      some (name ++ " must be length ".toList ++ Decimal.ofInt expected ++ ", got ".toList
        ++ Decimal.ofNat actual)
  | amountRange amount =>
      some ("ERC20Token.new amount must fit in uint64, got ".toList ++ Decimal.ofInt amount)
  | unknownLevel quoted => some ("unknown log level: ".toList ++ quoted)
  | unknownName package quoted =>
      some ("module '".toList ++ package ++ "' has no attribute ".toList ++ quoted)
  | missingKey key => some key
  | reservedField name =>
      some ("Attempt to overwrite '".toList ++ name ++ "' in LogRecord".toList)
  | notFound path => some path
  | wrongKind | badValue | noOperation | beyondDigest | tooLarge | tooDeep | notText
  | isDirectory => none

/-- The message of a failure, empty if it has none. -/
def message (f : Failure) : Text := f.message?.getD []

/-- The failure is a bad value in the general sense, or a fault of any kind. -/
def isRejection : Failure → Bool
  | fault _ | badValue | badHex _ | wrongLength .. | amountRange _ | unknownLevel _ | notText =>
      true
  | _ => false

def isFault : Failure → Bool
  | fault _ => true
  | _ => false

def isAddressFault : Failure → Bool
  | fault f => f.kind.branch == .addressSyntax
  | _ => false

def isDenomFault : Failure → Bool
  | fault f => f.kind.branch == .denomStructure
  | _ => false

end Failure

/-- A computation succeeds if its first step and the rest do. -/
theorem bind_eq_ok_iff {α β : Type} {x : Except Failure α} {f : α → Except Failure β} {b : β} :
    (x >>= f) = .ok b ↔ ∃ a, x = .ok a ∧ f a = .ok b := by
  cases x <;> simp [bind, Except.bind]

end BridgedDenom
