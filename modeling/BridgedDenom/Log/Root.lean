import BridgedDenom.Log.Record
import BridgedDenom.Settings.Surroundings

/-!
# The root logger

All events end at the root logger.  It lets an event through if the level of the
event is above zero and not below its own, and hands it to its handlers, each of
which writes to one stream in one format.  A handler without a format is silent.

`configure` puts a single handler in place of all others and sets the level.  The
handler is replaced first: if the level turns out not to be one, the new handler and
the old level stay.

Making the message of an event may note further events.  They are written before
it.  They have no arguments, so making their messages notes nothing.
-/

namespace BridgedDenom

abbrev Stream := Text

/-- Where records go, and how they are written there. -/
structure Handler where
  /-- The format; a silent handler has none. -/
  format : Option Format
  stream : Stream
deriving DecidableEq

/-- The root logger with the fields bound to the context. -/
structure Root where
  /-- The least level of an event that is let through. -/
  level : Level
  handlers : List Handler
  bound : Fields

structure Written where
  stream : Stream
  line : Text
deriving DecidableEq

def Format.name : Format → Text
  | .text => "TextFormatter".toList
  | .json => "JSONFormatter".toList

def Handler.formatterName (h : Handler) : Text :=
  match h.format with
  | some format => format.name
  | none => "NoneType".toList

namespace Root

def errorStream : Stream := "stderr".toList

def start : Root := ⟨Level.warning, [⟨none, errorStream⟩], []⟩

/-- The level that counts if none is given. -/
def defaultLevel : Text := "WARNING".toList

/-- The name of a logger that is asked for without a name. -/
def loggerName (name : Text) : Text := if name.isEmpty then "peggy".toList else name

/-! ## Context -/

/-- Bind fields to the context, over those bound before. -/
def bind (root : Root) (fields : Fields) : Root := { root with bound := root.bound.merge fields }

def clear (root : Root) : Root := { root with bound := [] }

/-! ## Writing -/

/-- Events of the level are let through. -/
def lets (root : Root) (level : Level) : Bool := 0 < level && root.level ≤ level

/-- The line that a handler writes, if a line can be made, with the events noted on
the way. -/
def handled (root : Root) (moment : Moment) (event : Event) (h : Handler) :
    Option Text × List Event :=
  match h.format with
  | none => (none, [])
  | some format =>
      let attempt := Record.inFormat format root.bound ⟨moment, event, none⟩
      (attempt.outcome.toOption, attempt.events)

/-- The lines that an event makes, without those of further events. -/
def ownLines (root : Root) (moment : Moment) (event : Event) : List Written :=
  if root.lets event.level then
    root.handlers.filterMap fun h =>
      (root.handled moment event h).1.map fun s => ⟨h.stream, s ++ ['\n']⟩
  else []

def write (root : Root) (moment : Moment) (event : Event) : List Written :=
  if root.lets event.level then
    (root.handlers.flatMap fun h => (root.handled moment event h).2).flatMap (root.ownLines moment)
      ++ root.ownLines moment event
  else []

/-- The lines that events make, one event after the other. -/
def writeAll (root : Root) (moment : Moment) (events : List Event) : List Written :=
  events.flatMap (root.write moment)

/-- Log an event.  If it is let through, none of its fields may have the name of a
part of every record. -/
def log (root : Root) (moment : Moment) (event : Event) : Except Failure (List Written) :=
  if root.lets event.level then
    match event.fields.find? fun (name, _) => Record.ownNames.contains name with
    | some (name, _) => .error (.reservedField name)
    | none => .ok (root.write moment event)
  else .ok []

/-! ## Configuration -/

/-- The level given by a value: a number, or the name of a level. -/
def levelOfValue (v : Value) : Except Failure Level :=
  match v with
  | .bool b => .ok b.toInt
  | .int n => .ok n
  | .text s => (Level.ofText? s).elim (.error (.unknownLevel v.literal)) .ok
  | .bytes .fixed _ | .denom _ => .error (.unknownLevel v.literal)
  | .bytes .buffer _ => .error .wrongKind
  | _ => .error .noOperation

/-- Put one handler in place of all others and set the level. -/
def configure (root : Root) (format : Format) (level : Value) (stream : Stream) :
    Root × Except Failure Unit :=
  let root := { root with handlers := [⟨some format, stream⟩] }
  match levelOfValue level with
  | .ok level => ({ root with level := level }, .ok ())
  | .error failure => (root, .error failure)

/-- The format of a name; every other name is that of text. -/
def formatOfName (s : Text) : Format := if s.strip.lower == "json".toList then .json else .text

/-- The format given by a value.  Bytes name none. -/
def formatOfValue : Value → Except Failure Format
  | .text s => .ok (formatOfName s)
  | .bytes .view _ => .error .noOperation
  | .bytes _ _ | .denom _ => .ok .text
  | _ => .error .noOperation

def formatVariable : Text := "PEGGY_LOG_FORMAT".toList

def levelVariable : Text := "PEGGY_LOG_LEVEL".toList

/-- The format of the environment, if it names one, or else the one given. -/
def chosenFormat (around : Surroundings) (format : Value) : Except Failure Format :=
  let named := ((around.environment? formatVariable).getD []).strip.lower
  if named == "json".toList then .ok .json
  else if named == "text".toList then .ok .text
  else formatOfValue format

/-- The level given, or else that of the environment, or else the default. -/
def chosenLevel (around : Surroundings) (level : Value) : Value :=
  match level with
  | .null =>
      let named := (around.environment? levelVariable).getD []
      .text (if named.isEmpty then defaultLevel else named)
  | level => level

/-- Configure from a level and a format, where the environment has a say: its format
counts before the one given, its level after. -/
def setUp (root : Root) (around : Surroundings) (level format : Value) (stream : Stream) :
    Root × Except Failure Unit :=
  match chosenFormat around format with
  | .ok format => root.configure format (chosenLevel around level) stream
  | .error failure => (root, .error failure)

end Root

end BridgedDenom
