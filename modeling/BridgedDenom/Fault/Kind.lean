import BridgedDenom.Text.Basic

/-!
# Kinds of faults

Faults form a family tree.  The root is the general fault; below it stand one
branch for each stage that can reject its input (address syntax, structure of a
denomination, validation of a token, arithmetic on tokens) and the faults of the
configuration.  A caller that knows only a branch recognises everything below it.

Faults of the address, denomination and configuration branches are also bad values
in the general sense, so that a caller who asks for no more than that sees them
too.
-/

namespace BridgedDenom

namespace Fault

inductive Kind where
  | general
  | addressSyntax
  | emptyAddress
  | malformedAddress
  | denomStructure
  /-- A denomination without the lead of its convention. -/
  | leadMismatch
  /-- A denomination whose rest is not of the length of an address. -/
  | addressLength
  | tokenValidation
  | invalidAddress
  /-- A token whose amount makes no coin. -/
  | invalidAmount
  | tokenArithmetic
  /-- A sum of tokens of different contracts. -/
  | mismatchedContract
  | amountOverflow
  | configuration
deriving DecidableEq

namespace Kind

def name : Kind → Text
  | general => "PeggyError".toList
  | addressSyntax => "AddressError".toList
  | emptyAddress => "EmptyAddress".toList
  | malformedAddress => "MalformedAddress".toList
  | denomStructure => "DenomError".toList
  | leadMismatch => "PrefixMismatch".toList
  | addressLength => "BadAddressLength".toList
  | tokenValidation => "TokenValidationError".toList
  | invalidAddress => "InvalidAddress".toList
  | invalidAmount => "InvalidAmount".toList
  | tokenArithmetic => "TokenArithmeticError".toList
  | mismatchedContract => "MismatchedContract".toList
  | amountOverflow => "AmountOverflow".toList
  | configuration => "ConfigError".toList

/-- All kinds, a branch before what is below it. -/
def all : List Kind :=
  [general, addressSyntax, emptyAddress, malformedAddress, denomStructure, leadMismatch,
   addressLength, tokenValidation, invalidAddress, invalidAmount, tokenArithmetic,
   mismatchedContract, amountOverflow, configuration]

def ofName? (s : Text) : Option Kind := all.find? fun kind => kind.name == s

/-- The branch of a kind: itself, or the one it stands below. -/
def branch : Kind → Kind
  | emptyAddress | malformedAddress => addressSyntax
  | leadMismatch | addressLength => denomStructure
  | invalidAddress | invalidAmount => tokenValidation
  | mismatchedContract | amountOverflow => tokenArithmetic
  | kind => kind

/-- The kind is a bad value in the general sense. -/
def isBadValue (kind : Kind) : Bool :=
  kind.branch == addressSyntax || kind.branch == denomStructure || kind.branch == configuration

/-- The kinds from a kind up to the root. -/
def ancestry (kind : Kind) : List Kind :=
  (kind :: kind.branch :: [general]).eraseDups

/-- The names of everything a fault of the kind is, from the most special on. -/
def lineage (kind : Kind) : List Text :=
  kind.ancestry.map name
    ++ (if kind.isBadValue then ["ValueError".toList] else []) ++ ["Exception".toList]

example : lineage emptyAddress
    = ["EmptyAddress", "AddressError", "PeggyError", "ValueError", "Exception"].map
        String.toList := by decide
example : lineage amountOverflow
    = ["AmountOverflow", "TokenArithmeticError", "PeggyError", "Exception"].map
        String.toList := by decide

end Kind

/-! ## Codes -/

/-- The code of a fault, stable for machines. -/
inductive Code where
  | emptyAddress
  | malformedAddress
  /-- A denomination without the lead of its convention. -/
  | leadMismatch
  /-- A denomination whose rest is not of the length of an address. -/
  | addressLength
  | invalidAddress
  /-- A token whose amount makes no coin. -/
  | invalidAmount
  /-- A sum of tokens of different contracts. -/
  | mismatchedContract
  | amountOverflow
  | configuration
deriving DecidableEq

namespace Code

def name : Code → Text
  | emptyAddress => "EMPTY_ADDRESS".toList
  | malformedAddress => "MALFORMED_ADDRESS".toList
  | leadMismatch => "PREFIX_MISMATCH".toList
  | addressLength => "BAD_ADDRESS_LENGTH".toList
  | invalidAddress => "INVALID_ADDRESS".toList
  | invalidAmount => "INVALID_AMOUNT".toList
  | mismatchedContract => "MISMATCHED_CONTRACT".toList
  | amountOverflow => "AMOUNT_OVERFLOW".toList
  | configuration => "CONFIG".toList

def all : List Code :=
  [emptyAddress, malformedAddress, leadMismatch, addressLength, invalidAddress, invalidAmount,
   mismatchedContract, amountOverflow, configuration]

def text (code : Code) : Text := "PEGGY/".toList ++ code.name

def ofName? (s : Text) : Option Code := all.find? fun code => code.name == s

end Code

end Fault

end BridgedDenom
