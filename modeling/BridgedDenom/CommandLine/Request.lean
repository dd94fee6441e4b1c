import BridgedDenom.CommandLine.Arguments
import BridgedDenom.Decimal.Integer

/-!
# Requests

The command line consists of general options, the name of a command, and the
options and arguments of that command, which may be mixed.  The general options end
at the name of the command.  A request for help or for the version counts before
everything that is not itself a mistake in the options, and of the two the first one
given.
-/

namespace BridgedDenom

namespace CommandLine

inductive CommandName where
  | denom
  | decode
  | validate
  | sum
  | config
deriving DecidableEq

namespace CommandName

def text : CommandName → Text
  | denom => "denom".toList
  | decode => "decode".toList
  | validate => "validate".toList
  | sum => "sum".toList
  | config => "config".toList

def all : List CommandName := [denom, decode, validate, sum, config]

def ofText? (s : Text) : Option CommandName := all.find? fun name => name.text == s

end CommandName

inductive Command where
  | denom (address : Text) (asJson : Bool)
  /-- Print the contract behind a denomination, given by its display form or by the
  hex of its bytes. -/
  | decode (value : Text) (rawHex : Bool)
  | validate (address : Text)
  /-- Print the coin of the sum of amounts of a contract. -/
  | sum (contract : Text) (first : Int) (amounts : List Int) (asJson : Bool)
  | config
deriving DecidableEq

/-- What is asked for, unless it is a mistake. -/
inductive Asked (α : Type) where
  | mistake
  | help
  | version
  | request (what : α)

/-- The general options and what follows them. -/
structure Selection where
  logLevel : Option Text
  logFormat : Option Text
  command : CommandName
  rest : List Text

/-! ## Options -/

def helpOption : Text := "--help".toList

def versionOption : Text := "--version".toList

def levelOption : Text := "--log-level".toList

def formatOption : Text := "--log-format".toList

def jsonOption : Text := "--json".toList

def rawOption : Text := "--raw-hex".toList

def generalOptions : OptionNames := ⟨[levelOption, formatOption], [versionOption, helpOption]⟩

def commandOptions : CommandName → OptionNames
  | .denom | .sum => ⟨[], [jsonOption, helpOption]⟩
  | .decode => ⟨[], [rawOption, helpOption]⟩
  | .validate | .config => ⟨[], [helpOption]⟩

/-! ## Reading -/

/-- The first request for help or for the version among general options. -/
def early? {α : Type} (options : List (Text × Option Text)) : Option (Asked α) :=
  options.findSome? fun (name, _) =>
    if name = helpOption then some .help
    else if name = versionOption then some .version
    else none

/-- A word that is not the name of a command.  If it has the form of an option it is
read once more as one. -/
def notCommand {α : Type} (arguments : List Text) : Asked α :=
  match Arguments.read? generalOptions false arguments with
  | some found => (early? found.options).getD .mistake
  | none => .mistake

/-- The general options and the command of a command line. -/
def Selection.read (arguments : List Text) : Asked Selection :=
  match Arguments.read? generalOptions false arguments with
  | none => .mistake
  | some found =>
      match early? found.options, found.others with
      | some asked, _ => asked
      | none, [] => .mistake
      | none, name :: rest =>
          match CommandName.ofText? name with
          | none => notCommand (name :: rest)
          | some command =>
              .request ⟨found.value? levelOption, found.value? formatOption, command, rest⟩

/-- The command of its options and arguments. -/
def Command.ofArguments? : CommandName → Arguments → Option Command
  | .denom, ⟨options, [address]⟩ => some (.denom address (options.any (·.1 == jsonOption)))
  | .decode, ⟨options, [value]⟩ => some (.decode value (options.any (·.1 == rawOption)))
  | .validate, ⟨_, [address]⟩ => some (.validate address)
  | .sum, ⟨options, contract :: first :: amounts⟩ => do
      let first ← Decimal.readInt? .usual first
      let amounts ← amounts.mapM (Decimal.readInt? .usual)
      some (.sum contract first amounts (options.any (·.1 == jsonOption)))
  | .config, ⟨_, []⟩ => some .config
  | _, _ => none

/-- The command of a name and what follows it. -/
def Command.read (name : CommandName) (rest : List Text) : Asked Command :=
  match Arguments.read? (commandOptions name) true rest with
  | none => .mistake
  | some found =>
      if found.has helpOption then .help
      else
        match Command.ofArguments? name found with
        | some command => .request command
        | none => .mistake

end CommandLine

end BridgedDenom
