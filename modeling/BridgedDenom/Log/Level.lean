import BridgedDenom.Decimal.Integer
import BridgedDenom.Text.Blank
import BridgedDenom.Text.Upper

/-!
# Log levels

A level is an integer; the greater it is, the more a record matters.  Some levels
have names, and two of them have two.  A level without a name is called after its
number.
-/

namespace BridgedDenom

/-- How much a log record matters. -/
abbrev Level := Int

namespace Level

/-- A record of no level of its own. -/
def unset : Level := 0

def debug : Level := 10

def info : Level := 20

def warning : Level := 30

def error : Level := 40

def critical : Level := 50

def named : List (Text × Level) :=
  [("CRITICAL".toList, critical), ("FATAL".toList, critical), ("ERROR".toList, error),
   ("WARNING".toList, warning), ("WARN".toList, warning), ("INFO".toList, info),
   ("DEBUG".toList, debug), ("NOTSET".toList, unset)]

/-- The level of a name, with blanks around it and in any letter case. -/
def ofText? (s : Text) : Option Level := named.lookup s.strip.upper

/-- The name of a level: of two names the first one. -/
def name (level : Level) : Text :=
  match named.find? fun entry => entry.2 == level with
  | some (name, _) => name
  | none => "Level ".toList ++ Decimal.ofInt level

example : ofText? " warn\n".toList = some 30 := by decide
example : (ofText? "LOUD".toList, ofText? "".toList) = (none, none) := by decide
example : ([50, 30, 0, 15, -5] : List Level).map name
    = ["CRITICAL", "WARNING", "NOTSET", "Level 15", "Level -5"].map String.toList := by
  decide +kernel

end Level

end BridgedDenom
