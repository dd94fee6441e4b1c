import BridgedDenom.Convention.Validation
import BridgedDenom.Json.Reader
import BridgedDenom.Settings.Surroundings
import BridgedDenom.Yaml.Reader

/-!
# Configuration documents

A configuration file holds a mapping with a section `denom`, which in turn holds
the stem and the separator.  A file whose suffix is `.yaml` or `.yml`, in any letter
case, is YAML and every other one JSON.  An empty JSON file holds the empty mapping,
and so does every YAML file whose value counts as false.  How the text of a YAML file
is read is a parameter; `valueOfText` takes the reader of this library for it.

A file that does not have the form of a document is reported as unreadable.  One that
has it may still hold a spelling without a value or a number out of bounds, or be nested
too deeply.

A section that is missing or counts as false is empty.  A missing stem or separator
takes its default, and a separator that counts as false is the empty one.
-/

namespace BridgedDenom

open Text (Flaw)

mutual

/-- A JSON document as a value.  If a name is repeated the last entry counts. -/
def Value.ofJson : Json → Value
  | .null => .null
  | .bool b => .bool b
  | .int n => .int n
  | .float x => .float x
  | .text s => .text s
  | .list items => .list (Value.ofItems items)
  | .object entries => .mapping (Fields.merge [] (Value.ofEntries entries))

def Value.ofItems : List Json → List Value
  | [] => []
  | item :: rest => Value.ofJson item :: Value.ofItems rest

def Value.ofEntries : List (Text × Json) → Fields
  | [] => []
  | (key, document) :: rest => (key, Value.ofJson document) :: Value.ofEntries rest

end

namespace Settings

def isYaml (path : Text) : Bool :=
  [".yaml", ".yml"].any fun suffix => suffix.toList == (Path.suffix path).lower

def valueOfJson (s : Text) : Except Flaw Value :=
  if s.isEmpty then .ok (.mapping []) else (Json.read s).map Value.ofJson

def pathKey : Text := "path".toList

def fileFault (path message : Text) : Failure :=
  .fault (.configuration message [(pathKey, .text path)])

def unreadable (path : Text) : Failure := fileFault path "unreadable config file".toList

def noMapping (path : Text) : Failure :=
  fileFault path "config file must contain a mapping".toList

def noSection (path : Text) : Failure :=
  fileFault path "'denom' section must be a mapping".toList

/-- The failure of a flaw in the file of a path.  Only a flaw of form is a fault about
the file. -/
def ofFlaw (path : Text) : Flaw → Failure
  | .form => unreadable path
  | .value => .badValue
  | .size => .tooLarge
  | .depth => .tooDeep

/-- A reader of documents: what the text of the file at a path says. -/
abbrev Reader := Text → Text → Except Failure Value

/-- The reader of both formats, by a reader of YAML. -/
def readerBy (yaml : Reader) : Reader := fun path s =>
  if isYaml path then (yaml path s).map fun v => if v.isFalsy then .mapping [] else v
  else (valueOfJson s).mapError (ofFlaw path)

theorem readerBy_of_json {yaml : Reader} {path s : Text} (json : isYaml path = false) :
    readerBy yaml path s = (valueOfJson s).mapError (ofFlaw path) := by
  rw [readerBy, json]
  rfl

theorem readerBy_of_yaml {yaml : Reader} {path s : Text} (suffix : isYaml path = true) :
    readerBy yaml path s = (yaml path s).map fun v => if v.isFalsy then .mapping [] else v := by
  rw [readerBy, suffix]
  rfl

def readYaml : Reader := fun path s => (Yaml.read s).mapError (ofFlaw path)

def valueOfText : Reader := readerBy readYaml

/-- The first value, unless it is missing or counts as false. -/
def orElse (v : Option Value) (other : Value) : Value :=
  match v with
  | some v => if v.isFalsy then other else v
  | none => other

/-- The convention of the entries of a section. -/
def ofSection (entries : Fields) : Except Failure Convention :=
  Convention.ofValues
    ((entries.get? Convention.stemKey).getD (.text Convention.defaultStem))
    (orElse (entries.get? Convention.separatorKey) (.text []))

/-- The convention of a document, found in the file of a path. -/
def ofDocument (path : Text) : Value → Except Failure Convention
  | .mapping entries =>
      match orElse (Fields.get? entries Convention.sectionKey) (.mapping []) with
      | .mapping entries => ofSection entries
      | _ => .error (noSection path)
  | _ => .error (noMapping path)

end Settings

end BridgedDenom
