import BridgedDenom.Text.Basic

/-!
# Options and arguments

An argument that starts with a dash and is longer than that is an option.  A *valued*
option takes what follows an equals sign, or else the next argument, whatever that
is; a *flag* takes nothing.  Two dashes end the options.  Where options and other
arguments may be mixed, options are recognised to the end; otherwise the first other
argument ends them.
-/

namespace BridgedDenom

structure OptionNames where
  valued : List Text
  flags : List Text

/-- The options, each with its value if it takes one, and the other arguments. -/
structure Arguments where
  options : List (Text × Option Text)
  others : List Text
deriving DecidableEq

namespace Arguments

def addOption (name : Text) (value : Option Text) (a : Arguments) : Arguments :=
  { a with options := (name, value) :: a.options }

def addOther (argument : Text) (a : Arguments) : Arguments :=
  { a with others := argument :: a.others }

/-- The argument has the form of an option. -/
def isOption : Text → Bool
  | '-' :: _ :: _ => true
  | _ => false

/-- The name in front of the first equals sign, and what follows that. -/
def splitName (argument : Text) : Text × Option Text :=
  let name := argument.takeWhile (· != '=')
  (name, (argument.dropWhile (· != '=')).tail?)

/-- Tell options from other arguments.  There is no result for an unknown option, a
value that is missing, or a value too many. -/
def read? (names : OptionNames) (mixed : Bool) : List Text → Option Arguments
  | [] => some ⟨[], []⟩
  | argument :: rest =>
      if argument = ['-', '-'] then some ⟨[], rest⟩
      else if isOption argument then
        match splitName argument with
        | (name, explicit) =>
            if names.valued.contains name then
              match explicit, rest with
              | some value, rest => (read? names mixed rest).map (addOption name (some value))
              | none, value :: rest => (read? names mixed rest).map (addOption name (some value))
              | none, [] => none
            else if names.flags.contains name && explicit.isNone then
              (read? names mixed rest).map (addOption name none)
            else none
      else if mixed then (read? names mixed rest).map (addOther argument)
      else some ⟨[], argument :: rest⟩

def has (a : Arguments) (name : Text) : Bool := a.options.any fun (key, _) => key == name

def value? (a : Arguments) (name : Text) : Option Text :=
  (a.options.filterMap fun (key, value) => if key = name then value else none).getLast?

end Arguments

end BridgedDenom
