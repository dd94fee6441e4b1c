import BridgedDenom.Text.Utf8

/-!
# Surroundings

What the program can see of the system it runs on: the variables of the
environment, and what is found at a path.  Whatever is there and cannot be read as
a file counts as a directory.

A path is brought into a normal form before it is used.  Empty parts and parts
that are a single dot are dropped; a leading slash stays, and so do exactly two.
The suffix of a path is the part of its last name from the last dot on, unless that
dot is the first or the last character of the name.
-/

namespace BridgedDenom

inductive Found where
  | nothing
  | directory
  | file (content : Bytes)
deriving DecidableEq

/-- What the program can see of the system. -/
structure Surroundings where
  /-- The value of a variable of the environment, if it is set. -/
  environment? : Text → Option Text
  /-- What is found at a path in normal form. -/
  lookUp : Text → Found

namespace Path

/-- The leading slashes that count. -/
def root : Text → Text
  | '/' :: '/' :: '/' :: _ => ['/']
  | '/' :: '/' :: _ => ['/', '/']
  | '/' :: _ => ['/']
  | _ => []

def names (s : Text) : List Text :=
  (Text.splitAt '/' s).filter fun part => !part.isEmpty && part != ['.']

def normal (s : Text) : Text :=
  match root s, names s with
  | [], [] => ['.']
  | root, names => root ++ Text.join ['/'] names

/-- The last name of a path, empty if there is none. -/
def lastName (s : Text) : Text := (names s).getLast?.getD []

/-- The part of a name from its last dot on. -/
def suffixOfName (name : Text) : Text :=
  let after := (name.reverse.takeWhile (· != '.')).reverse
  let before := name.length - after.length - 1
  if after.isEmpty || before = 0 || name.length ≤ after.length then [] else '.' :: after

def suffix (s : Text) : Text := suffixOfName (lastName s)

example : ["/d//a/./b/", "//x", "///x", "", ".", "/"].map (fun s => String.ofList (normal s.toList))
    = ["/d/a/b", "//x", "/x", ".", ".", "/"] := by decide
example : ["/d/a.yaml", "/d/.yml", "a.", "a", "a.b.json", ".a.b", "..", "a..yml"].map
      (fun s => String.ofList (suffix s.toList))
    = [".yaml", "", "", "", ".json", ".b", "", ".yml"] := by decide

end Path

end BridgedDenom
