import BridgedDenom.Proofs.CommandLine.Asking
import BridgedDenom.Proofs.Json.Layout
import BridgedDenom.Proofs.Settings.Layers

/-!
# Saving a convention

The text that a convention is written down as is read back as this convention
(`read_pretty_append`).  So where a file holds the text, with blanks behind it or without, and
its path is not one of YAML, the convention of the file is the one that was saved
(`fileBy_saved`); and it is the convention in force if a variable names the file and no other
one says anything (`load_saved`).

The command `config` prints the convention in force as such a text, with a line end behind
it.  What it prints, saved in a file, puts the same convention in force again
(`saved_convention`).  How YAML is read plays no part in this.
-/

namespace BridgedDenom

namespace Settings

/-! ## The text of a convention -/

/-- The document of a convention, with its one section. -/
def savedDocument (c : Convention) : Fields := [("denom".toList, .mapping (savedSection c))]
where
  savedSection (c : Convention) : Fields :=
    [("prefix".toList, .text c.stem), ("separator".toList, .text c.separator)]

section
variable {yaml : Reader} {around : Surroundings} {c : Convention} {path tail : Text}

theorem read_pretty_append (c : Convention) (blank : Json.IsGap tail) :
    Json.read (c.pretty ++ tail) = .ok c.document := by
  have legible : Json.Legible c.document := ⟨⟨trivial, trivial, trivial⟩, trivial⟩
  have deep : Json.nesting c.document ≤ Json.nestingLimit := show 2 ≤ 989 by decide
  have read : Json.read ([] ++ (c.document.pretty ++ tail)) = .ok c.document :=
    Json.read_pretty legible deep Json.isGap_nil blank
  exact read

theorem readerBy_pretty (json : isYaml path = false) (c : Convention)
    (blank : Json.IsGap tail) :
    readerBy yaml path (c.pretty ++ tail) = .ok (.mapping (savedDocument c)) := by
  have some : (c.pretty ++ tail).isEmpty = false := rfl
  rw [readerBy_of_json json, valueOfJson, some, read_pretty_append c blank]
  rfl

/-! ## Files -/

theorem isGap_lineEnd : Json.IsGap ['\n'] := Json.isGap_singleton rfl

/-- A file is found at the path, of the suffix of JSON, with the text of a convention and
blanks behind it. -/
structure SavedAt (around : Surroundings) (path : Text) (c : Convention) : Prop where
  json : isYaml (Path.normal path) = false
  found : ∃ tail, Json.IsGap tail ∧
    around.lookUp (Path.normal path) = .file (Text.utf8 (c.pretty ++ tail))

/-- A variable names the file at the path, and neither the stem nor the separator is set. -/
structure OnlyFile (around : Surroundings) (path : Text) : Prop where
  named : Names around path
  noStem : around.environment? stemVariable = none
  noSeparator : around.environment? separatorVariable = none

theorem SavedAt.readsAs (saved : SavedAt around path c) :
    ReadsAs (readerBy yaml) around path (savedDocument c) := by
  obtain ⟨tail, blank, found⟩ := saved.found
  exact ⟨_, c.pretty ++ tail, found, Text.ofUtf8?_utf8 _, readerBy_pretty saved.json c blank⟩

/-- An empty separator counts as false, and then the separator is the empty one. -/
theorem hasSeparator_savedSection (c : Convention) :
    HasSeparator (savedDocument.savedSection c) (.text c.separator) := by
  have here : (savedDocument.savedSection c).get? "separator".toList
      = some (.text c.separator) := rfl
  cases counts : (Value.text c.separator).isFalsy with
  | true =>
      obtain empty : c.separator = [] := List.isEmpty_iff.mp counts
      rw [empty] at here counts ⊢
      exact .falsy here counts
  | false => exact .present here counts

theorem ofValues_text (c : Convention) :
    Convention.ofValues (.text c.stem) (.text c.separator) = .ok c :=
  Convention.ofTexts_stem_separator c

theorem fileBy_saved (saved : SavedAt around path c) :
    fileBy (readerBy yaml) around path = .ok c :=
  (fileBy_eq saved.readsAs (.mapping rfl) (.present rfl) (hasSeparator_savedSection c)).trans
    (ofValues_text c)

theorem load_saved (saved : SavedAt around path c) (only : OnlyFile around path) :
    loadBy (readerBy yaml) around = .ok c := by
  have below : Below (readerBy yaml) around (.text c.stem) (.text c.separator) :=
    .file only.named.1 only.named.2 saved.readsAs (.mapping rfl) (.present rfl)
      (hasSeparator_savedSection c)
  exact (load_eq_ok_iff below).mpr
    ⟨c, ofValues_text c, .unset only.noStem, .unset only.noSeparator⟩

end

end Settings

namespace CommandLine

variable {read : Settings.Reader} {around : Surroundings} {arguments : List Text} {c : Convention}

/-- The command prints the text of the convention in force, with a line end behind it. -/
theorem config_ends (asks : Asks around arguments .config)
    (loads : Settings.loadBy read around = .ok c) :
    Ends read around arguments 0 (c.pretty ++ ['\n']) [] := by
  have found : (reporting isSettingsFailure (.ofExcept (Settings.prettyBy read around))).run
      = ⟨.ok c.pretty, []⟩ := run_reporting_ofExcept_ok (pretty_of_load loads)
  exact asks.ends_of_ok (run_bind_of_silent found fun s => (pure (s ++ ['\n']) : Step Text))

end CommandLine

namespace Settings

open CommandLine (Asks Ends)

/-- The text of a convention in a file is read as this convention, and puts it in force where
the file alone is named.  The command `config` prints such a text, so what it prints, saved
in a file, puts the convention in force again. -/
theorem saved_convention (yaml : Reader) (c : Convention) :
    let file := fileBy (readerBy yaml)
    let loaded := loadBy (readerBy yaml)
    (∀ around path, SavedAt around path c →
      file around path = .ok c ∧ (OnlyFile around path → loaded around = .ok c)) ∧
    ∀ around arguments, loaded around = .ok c → Asks around arguments .config →
      ∃ output, Ends (readerBy yaml) around arguments 0 output [] ∧
        ∀ later path, isYaml (Path.normal path) = false →
          later.lookUp (Path.normal path) = .file (Text.utf8 output) →
          file later path = .ok c ∧ (OnlyFile later path → loaded later = .ok c) := by
  intro file loaded
  have reads : ∀ around path, SavedAt around path c →
      file around path = .ok c ∧ (OnlyFile around path → loaded around = .ok c) :=
    fun around path saved => ⟨fileBy_saved saved, load_saved saved⟩
  refine ⟨reads, fun around arguments loads asks => ?_⟩
  exact ⟨c.pretty ++ ['\n'], CommandLine.config_ends asks loads, fun later path json found =>
    reads later path ⟨json, ['\n'], isGap_lineEnd, found⟩⟩

/-! ## A saved convention -/

def bridge : Convention := ⟨"bridge".toList, ['/'], by decide, by decide⟩

/-- A file, found at every path, with the text of a convention and a line end. -/
def bridgeSaved : Surroundings where
  environment? name := [("PEGGY_CONFIG_FILE".toList, "./denom.json".toList)].lookup name
  lookUp _ := .file (Text.utf8 (bridge.pretty ++ ['\n']))

theorem saved_convention_bridge :
    SavedAt bridgeSaved "./denom.json".toList bridge ∧
      OnlyFile bridgeSaved "./denom.json".toList ∧
      ofFile bridgeSaved "./denom.json".toList = .ok bridge ∧ load bridgeSaved = .ok bridge ∧
      ∃ output, Ends valueOfText bridgeSaved ["config".toList] 0 output [] := by
  have saved : SavedAt bridgeSaved "./denom.json".toList bridge :=
    ⟨by decide, ['\n'], isGap_lineEnd, rfl⟩
  have only : OnlyFile bridgeSaved "./denom.json".toList :=
    ⟨⟨by decide, by decide⟩, by decide, by decide⟩
  obtain ⟨reads, prints⟩ := saved_convention readYaml bridge
  obtain ⟨ofFile, load⟩ := reads bridgeSaved _ saved
  have known : CommandLine.LevelKnown bridgeSaved none := by
    intro s asked
    cases asked
  have asks : Asks bridgeSaved ["config".toList] .config :=
    CommandLine.asks_of_read .config known rfl
  obtain ⟨output, ends, -⟩ := prints bridgeSaved _ (load only) asks
  exact ⟨saved, only, ofFile, load only, output, ends⟩

end Settings

end BridgedDenom
