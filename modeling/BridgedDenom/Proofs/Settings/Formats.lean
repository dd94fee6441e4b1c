import BridgedDenom.Proofs.Convention.Grammar
import BridgedDenom.Proofs.Json.Compact
import BridgedDenom.Settings.Loading

/-!
# The formats of configuration files

What a file says depends on its format only through the value that its text is read as
(`HoldsJson`, `HoldsYaml`).  JSON hands the value on as it is (`HoldsJson.fileBy_eq`).  YAML
puts the empty mapping in place of a value that counts as false (`HoldsYaml.fileBy_eq`), which
changes neither an empty mapping nor a value that counts.  Behind that the document is treated
alike, except that a fault names the file it was found in (`ofDocument_alike`).

How the text of a YAML file is read is of no importance here, so it may be read in any way.
Two files with one value give the same convention, or are both refused with the same message
(`formats_agree`).  A null is a case of its own.  It is the value of an empty YAML file too, and
stands there for the empty mapping.  In JSON only an empty text stands for it, and a null is
refused (`formats_differ_null`).
-/

namespace BridgedDenom

namespace Settings

open Convention (Refused)

/-! ## Files with a value -/

/-- A file of a format is found at the path, and its text is read as the value. -/
structure Holds (suffix : Bool) (Reads : Text → Text → Value → Prop) (around : Surroundings)
    (path : Text) (v : Value) : Prop where
  format : isYaml (Path.normal path) = suffix
  reads : ∃ content s, around.lookUp (Path.normal path) = .file content ∧
    Text.ofUtf8? content = some s ∧ Reads (Path.normal path) s v

def HoldsJson : Surroundings → Text → Value → Prop :=
  Holds false fun _ s v => (Json.read s).map Value.ofJson = .ok v

/-- By a reader of YAML. -/
def HoldsYaml (yaml : Reader) : Surroundings → Text → Value → Prop :=
  Holds true fun path s v => yaml path s = .ok v

section
variable {yaml : Reader} {around : Surroundings} {path path' s : Text} {v : Value}

/-- No document is empty. -/
theorem valueOfJson_eq (reads : (Json.read s).map Value.ofJson = .ok v) :
    valueOfJson s = .ok v := by
  cases s with
  | nil => cases reads
  | cons c rest => exact reads

theorem HoldsJson.fileBy_eq (holds : HoldsJson around path v) (yaml : Reader) :
    fileBy (readerBy yaml) around path = ofDocument (Path.normal path) v := by
  obtain ⟨content, s, found, decoded, reads⟩ := holds.reads
  simp only [fileBy, found, decoded, readerBy_of_json holds.format, valueOfJson_eq reads]
  rfl

theorem HoldsYaml.fileBy_eq (holds : HoldsYaml yaml around path v) :
    fileBy (readerBy yaml) around path
      = ofDocument (Path.normal path) (if v.isFalsy then .mapping [] else v) := by
  obtain ⟨content, s, found, decoded, reads⟩ := holds.reads
  simp only [fileBy, found, decoded, readerBy_of_yaml holds.format, reads]
  rfl

/-! ## Documents -/

/-- Two outcomes are the same but for the file that a fault names. -/
def Alike (x y : Except Failure Convention) : Prop :=
  (∃ c, x = .ok c ∧ y = .ok c) ∨
    ∃ message data data', x = .error (.fault (.configuration message data)) ∧
      y = .error (.fault (.configuration message data'))

theorem alike_ofSection (entries : Fields) : Alike (ofSection entries) (ofSection entries) := by
  rcases Convention.ofValues_ok_or_refused _ _ with ⟨c, accepted⟩ | ⟨message, data, refused⟩
  · exact .inl ⟨c, accepted, accepted⟩
  · exact .inr ⟨message, data, data, refused, refused⟩

/-- The cases are those of the checks: of the document first, then of its section. -/
theorem ofDocument_alike (path path' : Text) (v : Value) :
    Alike (ofDocument path v) (ofDocument path' v) := by
  cases v with
  | mapping entries =>
      simp only [ofDocument]
      cases orElse (Fields.get? entries Convention.sectionKey) (.mapping []) with
      | mapping entries => exact alike_ofSection entries
      | _ => exact .inr ⟨_, _, _, rfl, rfl⟩
  | _ => exact .inr ⟨_, _, _, rfl, rfl⟩

theorem ofDocument_empty (path : Text) : ofDocument path (.mapping []) = .ok .default := rfl

/-- Only an empty mapping counts as false among mappings, and it is put in its own place. -/
theorem standIn_of_mapping_or_counts
    (shape : (∃ entries, v = .mapping entries) ∨ v.isFalsy = false) :
    (if v.isFalsy then .mapping [] else v) = v := by
  rcases shape with ⟨entries, rfl⟩ | counts
  · cases entries <;> rfl
  · rw [counts]
    rfl

/-! ## Two files with one value -/

/-- Where a JSON file and a YAML file are read as one value, a mapping or any other value that
does not count as false, both give the same convention, or both are refused with the same
message, in whatever way YAML is read.  A null in a JSON file is refused, and in a YAML file it is
an empty document. -/
theorem formats_agree (inJson : HoldsJson around path v) (inYaml : HoldsYaml yaml around path' v) :
    let file := fileBy (readerBy yaml) around
    ((∃ entries, v = .mapping entries) ∨ v.isFalsy = false → Alike (file path) (file path')) ∧
    (v = .null → Refused (file path) ∧ file path' = .ok .default) := by
  refine ⟨fun shape => ?_, ?_⟩
  · rw [inJson.fileBy_eq, inYaml.fileBy_eq, standIn_of_mapping_or_counts shape]
    exact ofDocument_alike _ _ v
  · rintro rfl
    rw [inJson.fileBy_eq, inYaml.fileBy_eq]
    exact ⟨⟨_, _, rfl⟩, ofDocument_empty _⟩

end

/-! ## Two files at once -/

/-- A file of each format, told apart by the suffix. -/
def twoFiles (json yaml : Text) : Surroundings where
  environment? _ := none
  lookUp path := .file (Text.utf8 (if isYaml path then yaml else json))

section
variable {json yaml : Text} {v : Value}

theorem holdsJson_twoFiles (reads : (Json.read json).map Value.ofJson = .ok v) :
    HoldsJson (twoFiles json yaml) "denom.json".toList v where
  format := by decide
  reads := ⟨_, json, rfl, Text.ofUtf8?_utf8 _, reads⟩

theorem holdsYaml_twoFiles (reads : Yaml.read yaml = .ok v) :
    HoldsYaml readYaml (twoFiles json yaml) "denom.YML".toList v where
  format := by decide
  reads := ⟨_, yaml, rfl, Text.ofUtf8?_utf8 _, congrArg (Except.mapError _) reads⟩

end

/-! ### What was read

A value is compared with one that is made of mappings, texts and nulls only.  There it makes no
difference whether the two are the same or only equal for a caller. -/

section
variable {v w : Value} {s t key : Text} {entries rest : List (Text × Value)}

theorem same_null_iff : v.same .null = true ↔ v = .null := by
  cases v <;> simp [Value.same, Value.sameNumber, Value.integer?]

theorem same_text_iff : v.same (.text t) = true ↔ v = .text t := by
  cases v <;> simp [Value.same, Value.sameNumber, Value.integer?]

theorem same_mapping_iff : v.same (.mapping rest) = true ↔
    ∃ entries, v = .mapping entries ∧ Value.sameEntries entries rest = true := by
  cases v <;> simp [Value.same, Value.sameNumber, Value.integer?]

theorem sameEntries_nil_iff : Value.sameEntries entries [] = true ↔ entries = [] := by
  cases entries <;> simp [Value.sameEntries]

theorem sameEntries_cons_iff : Value.sameEntries entries ((key, w) :: rest) = true ↔
    ∃ v others, entries = (key, v) :: others ∧ v.same w = true ∧
      Value.sameEntries others rest = true := by
  cases entries with
  | nil => simp [Value.sameEntries]
  | cons entry others =>
      obtain ⟨name, v⟩ := entry
      simp only [Value.sameEntries, Bool.and_eq_true, beq_iff_eq, List.cons.injEq, Prod.mk.injEq]
      constructor
      · rintro ⟨⟨rfl, alike⟩, others⟩
        exact ⟨v, _, ⟨⟨rfl, rfl⟩, rfl⟩, alike, others⟩
      · rintro ⟨_, _, ⟨⟨rfl, rfl⟩, rfl⟩, alike, others⟩
        exact ⟨⟨rfl, alike⟩, others⟩

theorem exists_read (read : (Yaml.read s).toOption.any (·.same w) = true) :
    ∃ v, Yaml.read s = .ok v ∧ v.same w = true := by
  cases outcome : Yaml.read s with
  | error flaw =>
      rw [outcome] at read
      cases read
  | ok v =>
      rw [outcome] at read
      exact ⟨v, rfl, read⟩

end

/-! ### A convention and a null -/

def slashJson : Json :=
  .object [("denom".toList,
    .object [("separator".toList, .text ['/']), ("prefix".toList, .text "peggy2".toList)])]

def slashLines : Text := "denom:\n  separator: /\n  prefix: 'peggy2'\n".toList

def slashDocument : Value :=
  .mapping [("denom".toList,
    .mapping [("separator".toList, .text ['/']), ("prefix".toList, .text "peggy2".toList)])]

theorem read_slashJson : (Json.read slashJson.compact).map Value.ofJson = .ok slashDocument := by
  have read : Json.read slashJson.compact = .ok slashJson :=
    Json.read_compact (by simp [slashJson, Json.ShortIntegers, Json.ShortEntries]) (by decide)
  rw [read]
  rfl

theorem read_slashLines : Yaml.read slashLines = .ok slashDocument := by
  obtain ⟨v, read, alike⟩ := exists_read (s := slashLines) (w := slashDocument) (by decide +kernel)
  simp only [slashDocument, same_mapping_iff, sameEntries_cons_iff, sameEntries_nil_iff,
    same_text_iff] at alike
  obtain ⟨_, rfl, _, _, rfl, ⟨_, rfl, _, _, rfl, rfl, _, _, rfl, rfl, rfl⟩, rfl⟩ := alike
  exact read

theorem formats_agree_slash : ∃ c,
    HoldsJson (twoFiles slashJson.compact slashLines) "denom.json".toList slashDocument ∧
      HoldsYaml readYaml (twoFiles slashJson.compact slashLines) "denom.YML".toList
        slashDocument ∧
      c.separator = ['/'] ∧
      ofFile (twoFiles slashJson.compact slashLines) "denom.json".toList = .ok c ∧
      ofFile (twoFiles slashJson.compact slashLines) "denom.YML".toList = .ok c := by
  have json : HoldsJson (twoFiles slashJson.compact slashLines) "denom.json".toList slashDocument :=
    holdsJson_twoFiles read_slashJson
  have yaml : HoldsYaml readYaml (twoFiles slashJson.compact slashLines) "denom.YML".toList
      slashDocument := holdsYaml_twoFiles read_slashLines
  have accepted : ofDocument (Path.normal "denom.json".toList) slashDocument
      = .ok ⟨"peggy2".toList, ['/'], by decide, by decide⟩ := by
    rfl
  have alike := (formats_agree json yaml).1 (.inl ⟨_, rfl⟩)
  rcases alike with ⟨c, fromJson, fromYaml⟩ | ⟨_, _, _, refused, -⟩
  · have same := accepted.symm.trans ((json.fileBy_eq readYaml).symm.trans fromJson)
    cases same
    exact ⟨_, json, yaml, rfl, fromJson, fromYaml⟩
  · rw [json.fileBy_eq, accepted] at refused
    cases refused

theorem read_nullJson : Json.read Json.null.compact = .ok .null :=
  Json.read_compact trivial (by decide)

theorem read_nullYaml : Yaml.read "null".toList = .ok .null := by
  obtain ⟨v, read, alike⟩ := exists_read (s := "null".toList) (w := .null) (by decide +kernel)
  obtain rfl := same_null_iff.mp alike
  exact read

/-- A null in both formats is refused in one of them only. -/
theorem formats_differ_null :
    HoldsJson (twoFiles "null".toList "null".toList) "denom.json".toList .null ∧
      HoldsYaml readYaml (twoFiles "null".toList "null".toList) "denom.YML".toList .null ∧
      Refused (ofFile (twoFiles "null".toList "null".toList) "denom.json".toList) ∧
      ofFile (twoFiles "null".toList "null".toList) "denom.YML".toList = .ok .default := by
  have json : HoldsJson (twoFiles "null".toList "null".toList) "denom.json".toList .null :=
    holdsJson_twoFiles (congrArg (Except.map Value.ofJson) read_nullJson)
  have yaml : HoldsYaml readYaml (twoFiles "null".toList "null".toList) "denom.YML".toList .null :=
    holdsYaml_twoFiles read_nullYaml
  refine ⟨json, yaml, ?_, ?_⟩
  · rw [ofFile, valueOfText, json.fileBy_eq]
    exact ⟨_, _, rfl⟩
  · rw [ofFile, valueOfText, yaml.fileBy_eq]
    exact ofDocument_empty _

end Settings

end BridgedDenom
