import BridgedDenom.CommandLine.Request
import BridgedDenom.Log.Root
import BridgedDenom.Settings.Loading
import BridgedDenom.Token.Basic

/-!
# Running a command

A command either prints its answer and ends with status 0, or reports one failure
and ends with status 1.  Each step of a command says which failures it reports; any
other failure leaves the command as it is.  What the steps note for the log is
written to the stream of errors, before the report.

Logging is set up once the name of the command is known and before its arguments are
looked at.

The commands do not depend on how a configuration file is read, so the reader is a
parameter.  `run` reads JSON and YAML.
-/

namespace BridgedDenom

namespace CommandLine

/-- How a command was stopped. -/
inductive Stop where
  | reported (failure : Failure)
  /-- By a failure that leaves the command. -/
  | escaped (failure : Failure)

abbrev Step (α : Type) : Type := ExceptT Stop Logged α

/-- A step that reports the failures of a class. -/
def reporting {α : Type} (isReported : Failure → Bool) (x : Attempt α) : Step α :=
  ExceptT.mk do
    match ← x.run with
    | .ok a => pure (.ok a)
    | .error failure =>
        pure (.error (if isReported failure then .reported failure else .escaped failure))

/-- A fault, or a file that is not there. -/
def isSettingsFailure : Failure → Bool
  | .fault _ => true
  | .notFound _ => true
  | _ => false

/-! ## Commands -/

def convention (read : Settings.Reader) (around : Surroundings) : Step Convention :=
  reporting isSettingsFailure (.ofExcept (Settings.loadBy read around))

def printed (document : Json) : Text := document.pretty ++ ['\n']

/-- What is printed about the denomination of an address. -/
def aboutDenom (c : Convention) (a : Address) (asJson : Bool) : Text :=
  let stored := Hex.encode (c.encode a).bytes
  if asJson then
    printed (.object
      [("contract".toList, .text a.checksum), ("denom".toList, .text (c.denomText a)),
       ("storage_hex".toList, .text stored)])
  else
    "Contract:  ".toList ++ a.checksum ++ "\nDenom:     ".toList ++ c.denomText a
      ++ "\nStorage:   0x".toList ++ stored ++ ['\n']

/-- The contract behind a denomination, given by the hex of its bytes or by its
display form. -/
def behind (c : Convention) (value : Text) (rawHex : Bool) : Step Address :=
  if rawHex then do
    let data ← reporting Failure.isRejection (.ofExcept (Value.text value).bytesOfHex)
    reporting Failure.isFault (c.decodeBytes data)
  else
    reporting Failure.isFault do
      let d ← c.decodeText value
      c.decodeBytes d.bytes

/-- The sum of tokens of one contract, added one after the other. -/
def total (contract : Text) (sum : Token) : List Int → Attempt Token
  | [] => pure sum
  | amount :: rest => do
      total contract (← sum.add .usual (← Token.make (.int amount) (.text contract))) rest

/-- The valid sum of amounts of a contract. -/
def validTotal (c : Convention) (contract : Text) (first : Int) (amounts : List Int) :
    Attempt Token := do
  let sum ← total contract (← Token.make (.int first) (.text contract)) amounts
  sum.validate c
  pure sum

def aboutSum (record : Fields) (coin : Text) : Json :=
  let text := fun key : Text => ((record.get? key).getD .null).logged
  .object
    [(Token.amountKey, text Token.amountKey), ("coin".toList, .text coin),
     (Token.contractKey, text Token.contractKey)]

def Command.output (read : Settings.Reader) (around : Surroundings) : Command → Step Text
  | .denom address asJson => do
      let c ← convention read around
      let a ← reporting Failure.isFault (.ofExcept (Address.ofText address))
      pure (aboutDenom c a asJson)
  | .decode value rawHex => do
      let c ← convention read around
      let a ← behind c value rawHex
      pure (a.checksum ++ ['\n'])
  | .validate address => do
      reporting Failure.isFault (.ofExcept (Address.validate address))
      pure "ok\n".toList
  | .sum contract first amounts asJson => do
      let c ← convention read around
      let sum ← reporting Failure.isRejection (validTotal c contract first amounts)
      reporting (fun _ => false) do
        let coin ← (← sum.coin c).display
        if asJson then pure (printed (aboutSum (← sum.record) coin))
        else pure (coin ++ ['\n'])
  | .config => do
      let s ← reporting isSettingsFailure (.ofExcept (Settings.prettyBy read around))
      pure (s ++ ['\n'])

/-! ## The whole command line -/

inductive Outcome where
  | mistake
  | help
  /-- With a status, and texts on the standard streams. -/
  | ended (status : Nat) (output errors : Text)
  /-- By a failure that left the program, after a text on the stream of errors. -/
  | escaped (failure : Failure) (errors : Text)

/-- The name of the bound field that holds the name of the command. -/
def commandField : Text := "command".toList

/-- The lines that events leave on the stream of errors. -/
def logText (root : Root) (moment : Moment) (events : List Event) : Text :=
  (root.writeAll moment events).flatMap Written.line

def report (failure : Failure) : Text := "Error: ".toList ++ failure.message ++ ['\n']

def Command.run (read : Settings.Reader) (around : Surroundings) (root : Root) (moment : Moment)
    (command : Command) : Outcome :=
  let result := (command.output read around).run
  let log := logText root moment result.events
  match result.value with
  | .ok output => .ended 0 output log
  | .error (.reported failure) => .ended 1 [] (log ++ report failure)
  | .error (.escaped failure) => .escaped failure log

/-- The level given on the command line, in upper case; an empty one is none. -/
def levelValue (level : Option Text) : Value :=
  match level with
  | some s => if s.isEmpty then .null else .text s.upper
  | none => .null

/-- The level option, or the variable in its place if it is not given. -/
def levelOf (around : Surroundings) (selection : Selection) : Value :=
  levelValue (selection.logLevel.or (around.environment? Root.levelVariable))

/-- The format option, text if it is not given. -/
def formatOf (selection : Selection) : Value := .text (selection.logFormat.getD "text".toList)

/-- Set up logging for a command and run it. -/
def Selection.run (read : Settings.Reader) (around : Surroundings) (moment : Moment)
    (selection : Selection) : Outcome :=
  match Root.start.setUp around (levelOf around selection) (formatOf selection)
      Root.errorStream with
  | (_, .error failure) => .escaped failure []
  | (root, .ok ()) =>
      let root := root.clear.bind [(commandField, .text selection.command.text)]
      match Command.read selection.command selection.rest with
      | .mistake => .mistake
      | .help => .help
      | .version => .mistake
      | .request command => command.run read around root moment

def versionLine (version : Text) : Text := "peggy ".toList ++ version ++ ['\n']

/-- The whole command line, by a reader of configuration files. -/
def runBy (read : Settings.Reader) (version : Text) (around : Surroundings) (moment : Moment)
    (arguments : List Text) : Outcome :=
  match Selection.read arguments with
  | .mistake => .mistake
  | .help => .help
  | .version => .ended 0 (versionLine version) []
  | .request selection => selection.run read around moment

def run (version : Text) (around : Surroundings) (moment : Moment) (arguments : List Text) :
    Outcome :=
  runBy Settings.valueOfText version around moment arguments

end CommandLine

end BridgedDenom
