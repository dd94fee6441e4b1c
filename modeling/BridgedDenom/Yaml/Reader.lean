import BridgedDenom.Yaml.Draft

/-!
# Reading YAML

The text is cut into tokens, the tokens make the tree of the one document, and the
tree is drafted as a value.  So a flaw anywhere in the form of the document comes
before the flaws of its scalars.

This is a part of YAML.  A text with an anchor, an alias, a tag, a block scalar or a directive
in it counts as one without the form of a document.  Other readers may stand in the place
of this one: whoever loads a configuration takes the reader as a parameter.
-/

namespace BridgedDenom

open Text (Flaw)

namespace Yaml

def read (s : Text) : Except Flaw Value := do (Draft.ofNode (← Node.ofText s)).value

example :
    ["", "a", "a: 1\nb:\n- x\n- y\n", "\x7ba: [b, c: d], e\x7d", "'it''s'", "--- # c\nx\n...\n",
      "a:\n  b: \"c\\x64\"\n", "? k\n: v\n", "- - 1\n  - 2\n-\n", "=: 1\na: 2\n=: 3\n"].map
      (fun s => (read s.toList).toOption.map fun v => String.ofList v.literal)
    = ["None", "'a'", "\x7b'a': 1, 'b': ['x', 'y']\x7d",
       "\x7b'a': ['b', \x7b'c': 'd'\x7d], 'e': None\x7d", "\"it's\"", "'x'",
       "\x7b'a': \x7b'b': 'cd'\x7d\x7d", "\x7b'k': 'v'\x7d", "[[1, 2], None]",
       "\x7b'=': 3, 'a': 2\x7d"].map some := by
  decide +kernel
/-- Entries taken over: the mapping's own ones win, then the first mapping of a list. -/
example : (read "\x7ba: 1, <<: [\x7ba: 2, b: 3\x7d, \x7bb: 4\x7d]\x7d".toList).toOption.map Value.literal
    = some "\x7b'b': 3, 'a': 1\x7d".toList := by
  decide +kernel
example :
    ["[a", "'a", "\ta: b", "a: b: c", "a: b\n c: d", "- a\nb", "\x7ba]", "a\n---\nb", "[a]]", "=",
      "&a b", "a\nb: c", "<<: 1", "\x7b[a]: b\x7d"].map
      (fun s => (read s.toList).toOption.isSome) = List.replicate 14 false := by
  decide +kernel
/-- Of several flaws one of form in the document comes first, then the least deep one. -/
example :
    ["[1, \x7ba: 0x__\x7d]", "[1, \x7ba: 0x__\x7d", "[[=], 0b_]", "[[0b_], =]",
      "a: \"\\Uffffffff\"\nb: ]"].map (fun s =>
        match read s.toList with
        | .error flaw => some flaw
        | .ok _ => none)
    = [.value, .form, .value, .form, .size].map some := by
  decide +kernel

end Yaml

end BridgedDenom
