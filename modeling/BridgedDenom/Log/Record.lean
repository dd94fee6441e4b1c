import BridgedDenom.Json.Basic
import BridgedDenom.Log.Message
import BridgedDenom.Log.Moment

/-!
# Log records

A record is an event at a moment, with a failure if one led to it.  It is written
as one JSON object or as a line of text.  Both give the moment, the level, the
logger and the message, and then the *fields*: those bound to the context, and over
them those of the event.

Every record has parts of its own, whose names no field of an event may take, and a
field whose name starts with an underscore is kept from the output.  In JSON the
four leading names belong to the record, whatever the fields say.

A record has no line if its message cannot be made, or if an integer in its fields has
too many digits to be written.  A field that gives way to another one is not written; but
unless it is an integer itself its text is made all the same.
-/

namespace BridgedDenom

/-- How a record is written. -/
inductive Format where
  | text
  | json
deriving DecidableEq

structure Record where
  moment : Moment
  event : Event
  /-- The failure that led to it. -/
  cause : Option Fault.Cause

/-- A value as a log field: a byte string as hex, null, truth values, numbers and
text as they are, all else as text. -/
def Value.logged : Value → Json
  | .null => .null
  | .bool b => .bool b
  | .int n => .int n
  | .float x => .float x
  | .text s => .text s
  | .bytes .fixed data => .text (Hex.encode data)
  | .bytes .buffer data => .text (Hex.encode data)
  | .denom d => .text (Hex.encode d.bytes)
  | v => .text v.plain

/-- The value can be made into a field.  An integer stays as it is. -/
def Value.isRendered (limit : DigitLimit) : Value → Bool
  | .int _ => true
  | v => v.hasText limit

def Json.inLine : Json → Text
  | .null => "None".toList
  | .bool b => if b then "True".toList else "False".toList
  | .int n => Decimal.ofInt n
  | .float x => Binary64.shown.write x
  | .text s => s
  | document => document.compact

/-- The text of a failure and of the failures that led to it, the earliest first. -/
def Fault.Cause.trace : Fault.Cause → Text
  | .fault report => ownLine ("peggy.errors.".toList ++ report.kind.name) report.message
  | .because report cause =>
      cause.trace
        ++ "\n\nThe above exception was the direct cause of the following exception:\n\n".toList
        ++ ownLine ("peggy.errors.".toList ++ report.kind.name) report.message
  | .other name message => ownLine name message
where
  /-- The name of a failure with its message, if it has one. -/
  ownLine (name message : Text) : Text :=
    if message.isEmpty then name else name ++ ": ".toList ++ message

/-! ## Fields -/

namespace Record

/-- The names of the parts that every record has. -/
def ownNames : List Text :=
  ["name", "msg", "args", "levelname", "levelno", "pathname", "filename", "module", "exc_info",
   "exc_text", "stack_info", "lineno", "funcName", "created", "msecs", "relativeCreated",
   "thread", "threadName", "processName", "process", "message", "asctime"].map String.toList

/-- A field of an event that is written. -/
def isShown (name : Text) : Bool := !ownNames.contains name && name.head? != some '_'

/-- The fields of the event that are written. -/
def extras (record : Record) : Fields := record.event.fields.filter fun (name, _) => isShown name

/-- The fields of a record in a context: the bound ones, and over them those of the
event. -/
def fields (bound : Fields) (record : Record) : Fields := Fields.merge bound record.extras

def loggedFields (bound : Fields) (record : Record) : List (Text × Json) :=
  (record.fields bound).map fun (name, v) => (name, v.logged)

/-! ## Two formats -/

/-- The names that a JSON record starts with. -/
def leadingNames : List Text := ["ts", "level", "logger", "msg"].map String.toList

def causeName : Text := "err".toList

/-- Set an entry: in its place if the name is there, else at the end. -/
def setEntry (name : Text) (document : Json) : List (Text × Json) → List (Text × Json)
  | [] => [(name, document)]
  | (key, old) :: rest =>
      if key = name then (name, document) :: rest else (key, old) :: setEntry name document rest

def entries (bound : Fields) (record : Record) (message : Text) : List (Text × Json) :=
  let own : List (Text × Json) :=
    leadingNames.zip
      [.text record.moment.stamp, .text record.event.level.name, .text record.event.logger,
       .text message]
  let all := own ++ (record.loggedFields bound).filter fun (name, _) => !leadingNames.contains name
  match record.cause with
  | some cause => setEntry causeName (.text cause.trace) all
  | none => all

/-- The names that a format has a value of its own for, whatever the fields say. -/
def isOwn (record : Record) : Format → Text → Bool
  | .text, _ => false
  | .json, name => leadingNames.contains name || (name == causeName && record.cause.isSome)

/-- The integers in the fields are within a limit: in all fields that are made into texts, and in
all that are written. -/
def fits (limit : DigitLimit) (format : Format) (bound : Fields) (record : Record) : Bool :=
  (bound ++ record.extras).all (fun (_, v) => v.isRendered limit)
    && (record.fields bound).all fun (name, v) => record.isOwn format name || v.hasText limit

/-- The line that a message makes, if the fields can be written. -/
def lineWithin (limit : DigitLimit) (format : Format) (bound : Fields) (record : Record)
    (line : Text → Text) : Attempt Text := do
  let message ← record.event.message limit
  if record.fits limit format bound then pure (line message) else throw .badValue

def json (limit : DigitLimit) (bound : Fields) (record : Record) : Attempt Text :=
  record.lineWithin limit .json bound fun message =>
    (Json.object (record.entries bound message)).compact

def line (bound : Fields) (record : Record) (message : Text) : Text :=
  let shown := (record.loggedFields bound).map fun (name, document) =>
    name ++ '=' :: document.inLine
  record.moment.stamp ++ ' ' :: record.event.level.name ++ ' ' :: record.event.logger
    ++ ": ".toList ++ message
    ++ (if shown.isEmpty then [] else " [".toList ++ Text.join [' '] shown ++ [']'])

/-- A record as a line of text, with the failure on further lines. -/
def text (limit : DigitLimit) (bound : Fields) (record : Record) : Attempt Text :=
  record.lineWithin limit .text bound fun message =>
    record.line bound message
      ++ (match record.cause with
          | some cause => '\n' :: cause.trace
          | none => [])

/-- A record in a format, under the usual limit of digits. -/
def inFormat (format : Format) (bound : Fields) (record : Record) : Attempt Text :=
  match format with
  | .text => record.text .usual bound
  | .json => record.json .usual bound

end Record

end BridgedDenom
