import BridgedDenom.Proofs.Convention.Grammar
import BridgedDenom.Settings.Loading

/-!
# The layers of the configuration

Below the environment's own stem and separator stands a pair of values: the defaults if no
file is named, and otherwise the entries of the file, each with its own rule for what is
missing (`Below`).  `base_eq` reads this pair off the program.

A convention is loaded if and only if the pair below is acceptable and so is what the
environment says, whether or not the environment replaces what is below
(`load_layered`).  Each field of the loaded convention is chosen on its own: an empty stem
variable leaves the stem below, while an empty separator variable counts.  Everything else
is refused by a fault of the configuration.

All of this holds for every reader of documents: it does not depend on which texts are
documents, nor on what they say.
-/

namespace BridgedDenom

namespace Settings

open Convention (IsStem IsSeparator Refused)

/-- The variable that replaces the stem. -/
def stemVariable : Text := "PEGGY_DENOM_PREFIX".toList

/-- The variable that replaces the separator. -/
def separatorVariable : Text := "PEGGY_DENOM_SEPARATOR".toList

/-! ## What is below the environment -/

/-- The entries of a document's section: those of a mapping, and none if the section is
missing or counts as false. -/
inductive HasSection (document : Fields) : Fields → Prop where
  | missing (h : document.get? "denom".toList = none) : HasSection document []
  | falsy {v : Value} (h : document.get? "denom".toList = some v) (absent : v.isFalsy = true) :
      HasSection document []
  | mapping {entries : Fields} (h : document.get? "denom".toList = some (.mapping entries)) :
      HasSection document entries

/-- The stem of a section: a missing one is the default. -/
inductive HasStem (entries : Fields) : Value → Prop where
  | missing (h : entries.get? "prefix".toList = none) : HasStem entries (.text "peggy".toList)
  | present {v : Value} (h : entries.get? "prefix".toList = some v) : HasStem entries v

/-- The separator of a section: one that is missing or counts as false is empty. -/
inductive HasSeparator (entries : Fields) : Value → Prop where
  | missing (h : entries.get? "separator".toList = none) : HasSeparator entries (.text [])
  | falsy {v : Value} (h : entries.get? "separator".toList = some v)
      (absent : v.isFalsy = true) : HasSeparator entries (.text [])
  | present {v : Value} (h : entries.get? "separator".toList = some v)
      (counts : v.isFalsy = false) : HasSeparator entries v

/-- The text of the file at a path is read as a document that is a mapping. -/
def ReadsAs (read : Reader) (around : Surroundings) (path : Text) (document : Fields) : Prop :=
  ∃ content s, around.lookUp (Path.normal path) = .file content ∧
    Text.ofUtf8? content = some s ∧ read (Path.normal path) s = .ok (.mapping document)

/-- A variable names the file at the path. -/
def Names (around : Surroundings) (path : Text) : Prop :=
  around.environment? "PEGGY_CONFIG_FILE".toList = some path ∧ path ≠ []

/-- The stem and the separator below the environment's own. -/
inductive Below (read : Reader) (around : Surroundings) : Value → Value → Prop where
  | unset (h : around.environment? "PEGGY_CONFIG_FILE".toList = none) :
      Below read around (.text "peggy".toList) (.text [])
  | empty (h : around.environment? "PEGGY_CONFIG_FILE".toList = some []) :
      Below read around (.text "peggy".toList) (.text [])
  | file {path : Text} {document entries : Fields} {stem separator : Value}
      (named : around.environment? "PEGGY_CONFIG_FILE".toList = some path) (nonempty : path ≠ [])
      (reads : ReadsAs read around path document) (inner : HasSection document entries)
      (hasStem : HasStem entries stem) (hasSeparator : HasSeparator entries separator) :
      Below read around stem separator

section
variable {read : Reader} {around : Surroundings} {document entries : Fields}
  {stem separator : Value}

theorem orElse_falsy {v : Value} (absent : v.isFalsy = true) (other : Value) :
    orElse (some v) other = other := by
  simp [orElse, absent]

theorem orElse_counts {v : Value} (counts : v.isFalsy = false) (other : Value) :
    orElse (some v) other = v := by
  simp [orElse, counts]

theorem HasSection.eq (h : HasSection document entries) :
    orElse (document.get? Convention.sectionKey) (.mapping []) = .mapping entries := by
  have key : Convention.sectionKey = "denom".toList := rfl
  cases h with
  | missing h => rw [key, h]; rfl
  | falsy h absent => rw [key, h, orElse_falsy absent]
  | mapping h =>
      cases entries with
      | nil => rw [key, h]; rfl
      | cons entry rest => rw [key, h]; rfl

theorem HasStem.eq (h : HasStem entries stem) :
    (entries.get? Convention.stemKey).getD (.text Convention.defaultStem) = stem := by
  have key : Convention.stemKey = "prefix".toList := rfl
  cases h with
  | missing h => rw [key, h]; rfl
  | present h => rw [key, h]; rfl

theorem HasSeparator.eq (h : HasSeparator entries separator) :
    orElse (entries.get? Convention.separatorKey) (.text []) = separator := by
  have key : Convention.separatorKey = "separator".toList := rfl
  cases h with
  | missing h => rw [key, h]; rfl
  | falsy h absent => rw [key, h, orElse_falsy absent]
  | present h counts => rw [key, h, orElse_counts counts]

/-- The convention of a file is made of the pair that its document holds. -/
theorem fileBy_eq {path : Text} (reads : ReadsAs read around path document)
    (inner : HasSection document entries) (hasStem : HasStem entries stem)
    (hasSeparator : HasSeparator entries separator) :
    fileBy read around path = Convention.ofValues stem separator := by
  obtain ⟨content, s, found, decoded, mapping⟩ := reads
  have opened : fileBy read around path = ofDocument (Path.normal path) (.mapping document) := by
    simp only [fileBy, found, decoded, mapping]
    rfl
  simp only [opened, ofDocument, inner.eq, ofSection, hasStem.eq, hasSeparator.eq]

/-- What the program finds below the environment is the pair that stands there. -/
theorem base_eq (below : Below read around stem separator) :
    base read around = Convention.ofValues stem separator := by
  have name : fileVariable = "PEGGY_CONFIG_FILE".toList := rfl
  cases below with
  | unset h =>
      simp only [base, name, h]
      rfl
  | empty h =>
      simp only [base, name, h]
      rfl
  | @file path document entries _ _ named nonempty reads inner hasStem hasSeparator =>
      have notEmpty : path.isEmpty = false := by simpa using nonempty
      simp only [base, name, named, notEmpty]
      exact fileBy_eq reads inner hasStem hasSeparator

end

/-! ## What the environment replaces -/

/-- What the environment says may stand in a convention: its stem is unset, empty or a stem,
and its separator unset or a separator. -/
def EnvironmentAllowed (around : Surroundings) : Prop :=
  (∀ s, around.environment? stemVariable = some s → s = [] ∨ IsStem s) ∧
    ∀ t, around.environment? separatorVariable = some t → IsSeparator t

/-- The stem over one that is below: the environment's, unless it is unset or empty. -/
inductive StemOver (around : Surroundings) (below : Text) : Text → Prop where
  | environment {s : Text} (h : around.environment? stemVariable = some s) (nonempty : s ≠ []) :
      StemOver around below s
  | unset (h : around.environment? stemVariable = none) : StemOver around below below
  | empty (h : around.environment? stemVariable = some []) : StemOver around below below

/-- The separator over one that is below: the environment's, unless it is unset. -/
inductive SeparatorOver (around : Surroundings) (below : Text) : Text → Prop where
  | environment {t : Text} (h : around.environment? separatorVariable = some t) :
      SeparatorOver around below t
  | unset (h : around.environment? separatorVariable = none) : SeparatorOver around below below

section
variable {around : Surroundings} {below s t : Text}

theorem exists_stemOver (around : Surroundings) (below : Text) :
    ∃ s, StemOver around below s := by
  cases h : around.environment? stemVariable with
  | none => exact ⟨below, .unset h⟩
  | some s =>
      cases s with
      | nil => exact ⟨below, .empty h⟩
      | cons c rest => exact ⟨c :: rest, .environment h (List.cons_ne_nil c rest)⟩

theorem exists_separatorOver (around : Surroundings) (below : Text) :
    ∃ t, SeparatorOver around below t := by
  cases h : around.environment? separatorVariable with
  | none => exact ⟨below, .unset h⟩
  | some t => exact ⟨t, .environment h⟩

/-- The stem is one exactly if the variable allows it, since the one below is a stem. -/
theorem StemOver.isStem_iff (h : StemOver around below s) (isStem : IsStem below) :
    IsStem s ↔ ∀ u, around.environment? stemVariable = some u → u = [] ∨ IsStem u := by
  cases h with
  | environment h nonempty => simp [h, nonempty]
  | unset h => simp [h, isStem]
  | empty h => simp [h, isStem]

theorem SeparatorOver.isSeparator_iff (h : SeparatorOver around below t)
    (isSeparator : IsSeparator below) :
    IsSeparator t ↔ ∀ u, around.environment? separatorVariable = some u → IsSeparator u := by
  cases h with
  | environment h => simp [h]
  | unset h => simp [h, isSeparator]

theorem StemOver.eq_of_empty (h : StemOver around below s)
    (empty : around.environment? stemVariable = some []) : s = below := by
  cases h with
  | environment h nonempty => exact absurd (Option.some.inj (h.symm.trans empty)) nonempty
  | unset | empty => rfl

theorem SeparatorOver.eq_of_set {u : Text} (h : SeparatorOver around below t)
    (set : around.environment? separatorVariable = some u) : t = u := by
  cases h with
  | environment h => exact Option.some.inj (h.symm.trans set)
  | unset h => simp [h] at set

theorem overlay_eq {base : Convention} (stem : StemOver around base.stem s)
    (separator : SeparatorOver around base.separator t) :
    overlay around base variableLead = Convention.ofTexts s t := by
  have stemName : variableLead ++ "DENOM_PREFIX".toList = stemVariable := rfl
  have separatorName : variableLead ++ "DENOM_SEPARATOR".toList = separatorVariable := rfl
  have separatorChosen : (around.environment? separatorVariable).getD base.separator = t := by
    cases separator with
    | environment h => simp [h]
    | unset h => simp [h]
  cases stem with
  | environment h nonempty =>
      have notEmpty : s.isEmpty = false := by simpa using nonempty
      simp only [overlay, stemName, separatorName, separatorChosen, h, notEmpty]
      rfl
  | unset h => simp only [overlay, stemName, separatorName, separatorChosen, h]
  | empty h =>
      simp only [overlay, stemName, separatorName, separatorChosen, h]
      rfl

end

/-! ## Loading -/

section
variable {read : Reader} {around : Surroundings} {stem separator : Value}

theorem load_eq_overlay {base : Convention} (below : Below read around stem separator)
    (accepted : Convention.ofValues stem separator = .ok base) :
    loadBy read around = overlay around base variableLead := by
  rw [loadBy, base_eq below, accepted]
  rfl

/-- A bad pair below the environment is refused whatever the environment says. -/
theorem load_eq_error {failure : Failure} (below : Below read around stem separator)
    (refused : Convention.ofValues stem separator = .error failure) :
    loadBy read around = .error failure := by
  rw [loadBy, base_eq below, refused]
  rfl

theorem load_ok_or_refused (below : Below read around stem separator) :
    (∃ c, loadBy read around = .ok c) ∨ Refused (loadBy read around) := by
  rcases Convention.ofValues_ok_or_refused stem separator with ⟨base, accepted⟩ | refused
  · rw [load_eq_overlay below accepted, overlay]
    exact Convention.ofTexts_ok_or_refused _ _
  · obtain ⟨message, data, refused⟩ := refused
    exact .inr ⟨message, data, load_eq_error below refused⟩

/-- A loaded convention has the fields of the environment over those of an acceptable pair. -/
theorem load_eq_ok_iff {c : Convention} (below : Below read around stem separator) :
    loadBy read around = .ok c ↔ ∃ base, Convention.ofValues stem separator = .ok base ∧
      StemOver around base.stem c.stem ∧ SeparatorOver around base.separator c.separator := by
  cases accepted : Convention.ofValues stem separator with
  | error failure => simp [load_eq_error below accepted]
  | ok base =>
      obtain ⟨s, stemOver⟩ := exists_stemOver around base.stem
      obtain ⟨t, separatorOver⟩ := exists_separatorOver around base.separator
      constructor
      · intro loaded
        rw [load_eq_overlay below accepted, overlay_eq stemOver separatorOver,
          Convention.ofTexts_eq_ok_iff] at loaded
        obtain ⟨rfl, rfl⟩ := loaded
        exact ⟨base, rfl, stemOver, separatorOver⟩
      · rintro ⟨_, same, ownStem, ownSeparator⟩
        cases same
        rw [load_eq_overlay below accepted, overlay_eq ownStem ownSeparator]
        exact Convention.ofTexts_stem_separator c

/-- The environment may replace what is below it, which must be acceptable all the same. -/
theorem exists_load_iff (below : Below read around stem separator) :
    (∃ c, loadBy read around = .ok c) ↔
      (∃ s t, stem = .text s ∧ separator = .text t ∧ IsStem s ∧ IsSeparator t) ∧
        EnvironmentAllowed around := by
  constructor
  · rintro ⟨c, loaded⟩
    obtain ⟨base, accepted, stemOver, separatorOver⟩ := (load_eq_ok_iff below).mp loaded
    obtain ⟨stemText, separatorText⟩ := Convention.ofValues_eq_ok_iff.mp accepted
    exact ⟨⟨_, _, stemText, separatorText, base.isStem_stem, base.isSeparator_separator⟩,
      (stemOver.isStem_iff base.isStem_stem).mp c.isStem_stem,
      (separatorOver.isSeparator_iff base.isSeparator_separator).mp c.isSeparator_separator⟩
  · rintro ⟨⟨s, t, rfl, rfl, isStem, isSeparator⟩, stemAllowed, separatorAllowed⟩
    obtain ⟨base, accepted⟩ := Convention.exists_ofTexts_iff.mpr ⟨isStem, isSeparator⟩
    obtain ⟨stem, stemOver⟩ := exists_stemOver around base.stem
    obtain ⟨separator, separatorOver⟩ := exists_separatorOver around base.separator
    obtain ⟨c, made⟩ := Convention.exists_ofTexts_iff.mpr
      ⟨(stemOver.isStem_iff base.isStem_stem).mpr stemAllowed,
        (separatorOver.isSeparator_iff base.isSeparator_separator).mpr separatorAllowed⟩
    exact ⟨c, by rw [load_eq_overlay below accepted, overlay_eq stemOver separatorOver, made]⟩

/-- Whatever reads the file, loading accepts exactly the acceptable layers, chooses each field
on its own, and refuses everything else by a fault of the configuration. -/
theorem load_layered (below : Below read around stem separator) :
    ((∃ c, loadBy read around = .ok c) ↔
      (∃ s t, stem = .text s ∧ separator = .text t ∧ IsStem s ∧ IsSeparator t) ∧
        EnvironmentAllowed around) ∧
    ((¬ ∃ c, loadBy read around = .ok c) → Refused (loadBy read around)) ∧
    ∀ c, loadBy read around = .ok c → IsStem c.stem ∧ IsSeparator c.separator ∧
      ∃ s t, stem = .text s ∧ separator = .text t ∧
        StemOver around s c.stem ∧ SeparatorOver around t c.separator := by
  refine ⟨exists_load_iff below, (load_ok_or_refused below).resolve_left, fun c loaded => ?_⟩
  obtain ⟨base, accepted, stemOver, separatorOver⟩ := (load_eq_ok_iff below).mp loaded
  obtain ⟨stemText, separatorText⟩ := Convention.ofValues_eq_ok_iff.mp accepted
  exact ⟨c.isStem_stem, c.isSeparator_separator, base.stem, base.separator, stemText,
    separatorText, stemOver, separatorOver⟩

end

/-! ## A file below two variables -/

def layeredText : Text :=
  "\x7b\"denom\":\x7b\"prefix\":\"bridge\",\"separator\":null\x7d\x7d".toList

def layeredSection : Fields :=
  [("prefix".toList, .text "bridge".toList), ("separator".toList, .null)]

/-- A file, found at every path, with a stem and a separator that counts as false; an empty
stem variable, and a separator variable. -/
def layered : Surroundings where
  environment? name :=
    [("PEGGY_CONFIG_FILE".toList, "./denom.json".toList), (stemVariable, []),
      (separatorVariable, ['/'])].lookup name
  lookUp _ := .file (Text.utf8 layeredText)

theorem layered_readsAs :
    ReadsAs valueOfText layered "./denom.json".toList
      [("denom".toList, .mapping layeredSection)] := by
  have path : Path.normal "./denom.json".toList = "denom.json".toList := by decide
  have json : isYaml "denom.json".toList = false := by decide
  have notEmpty : layeredText.isEmpty = false := by decide
  have characters : layeredText = ['\x7b', '"', 'd', 'e', 'n', 'o', 'm', '"', ':', '\x7b', '"', 'p',
      'r', 'e', 'f', 'i', 'x', '"', ':', '"', 'b', 'r', 'i', 'd', 'g', 'e', '"', ',', '"', 's', 'e',
      'p', 'a', 'r', 'a', 't', 'o', 'r', '"', ':', 'n', 'u', 'l', 'l', '\x7d', '\x7d'] := by
    decide
  have document : Json.read layeredText = .ok (.object [("denom".toList, .object
      [("prefix".toList, .text "bridge".toList), ("separator".toList, .null)])]) := by
    rw [characters]
    rfl
  refine ⟨Text.utf8 layeredText, layeredText, rfl, Text.ofUtf8?_utf8 _, ?_⟩
  rw [path, valueOfText, readerBy_of_json json, valueOfJson, notEmpty, document]
  rfl

theorem load_layered_file :
    Below valueOfText layered (.text "bridge".toList) (.text []) ∧
      ∃ c, load layered = .ok c ∧ c.stem = "bridge".toList ∧ c.separator = ['/'] := by
  have below : Below valueOfText layered (.text "bridge".toList) (.text []) :=
    .file rfl (by decide) layered_readsAs (.mapping rfl) (.present rfl) (.falsy rfl rfl)
  have stemEmpty : layered.environment? stemVariable = some [] := by decide
  have separatorSet : layered.environment? separatorVariable = some ['/'] := by decide
  obtain ⟨loads, -, fields⟩ := load_layered below
  have stemAllowed : ∀ s, layered.environment? stemVariable = some s → s = [] ∨ IsStem s := by
    intro s set
    exact .inl (Option.some.inj (set.symm.trans stemEmpty))
  have separatorAllowed :
      ∀ t, layered.environment? separatorVariable = some t → IsSeparator t := by
    intro t set
    rw [Option.some.inj (set.symm.trans separatorSet)]
    exact Convention.all_isNameChar_iff.mp (by decide)
  obtain ⟨c, loaded⟩ := loads.mpr ⟨⟨_, _, rfl, rfl, Convention.isName_iff.mp (by decide),
    Convention.all_isNameChar_iff.mp (by decide)⟩, stemAllowed, separatorAllowed⟩
  obtain ⟨-, -, s, t, stemText, separatorText, stemOver, separatorOver⟩ := fields c loaded
  exact ⟨below, c, loaded, (stemOver.eq_of_empty stemEmpty).trans (Value.text.inj stemText).symm,
    separatorOver.eq_of_set separatorSet⟩

end Settings

end BridgedDenom
