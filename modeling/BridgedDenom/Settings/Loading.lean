import BridgedDenom.Settings.Document

/-!
# Loading the convention

The convention in force is found in three layers.  The defaults come first; a file,
if a variable of the environment names one, replaces them; and two variables of the
environment replace the stem and the separator, each on its own.

An empty stem variable counts as unset, since no stem is empty.  An empty separator
variable counts, since the empty separator is the usual one.  What a file says must
be acceptable also where the environment replaces it.

How the text of a file is read is a parameter, since the layers do not depend on it.
`load` reads JSON and YAML.
-/

namespace BridgedDenom

namespace Settings

/-- The beginning of the names of the variables. -/
def variableLead : Text := "PEGGY_".toList

def fileVariable : Text := "PEGGY_CONFIG_FILE".toList

/-- The convention of the file at a path, by a reader. -/
def fileBy (read : Reader) (around : Surroundings) (path : Text) : Except Failure Convention :=
  let path := Path.normal path
  match around.lookUp path with
  | .nothing => .error (.notFound path)
  | .directory => .error .isDirectory
  | .file content =>
      match Text.ofUtf8? content with
      | none => .error .notText
      | some s => do ofDocument path (← read path s)

def ofFile (around : Surroundings) (path : Text) : Except Failure Convention :=
  fileBy valueOfText around path

/-- A convention with the stem and the separator of the environment in place of its
own, where they are given.  The names of the variables start with a lead. -/
def overlay (around : Surroundings) (base : Convention) (lead : Text) :
    Except Failure Convention :=
  let stem := match around.environment? (lead ++ "DENOM_PREFIX".toList) with
    | some s => if s.isEmpty then base.stem else s
    | none => base.stem
  let separator := (around.environment? (lead ++ "DENOM_SEPARATOR".toList)).getD base.separator
  Convention.ofTexts stem separator

/-- The convention below the environment's own: that of the file, or the default. -/
def base (read : Reader) (around : Surroundings) : Except Failure Convention :=
  match around.environment? fileVariable with
  | some path => if path.isEmpty then .ok .default else fileBy read around path
  | none => .ok .default

def loadBy (read : Reader) (around : Surroundings) : Except Failure Convention := do
  overlay around (← base read around) variableLead

def load (around : Surroundings) : Except Failure Convention := loadBy valueOfText around

/-- The text of the convention in force. -/
def prettyBy (read : Reader) (around : Surroundings) : Except Failure Text :=
  return (← loadBy read around).pretty

def pretty (around : Surroundings) : Except Failure Text := prettyBy valueOfText around

end Settings

end BridgedDenom
