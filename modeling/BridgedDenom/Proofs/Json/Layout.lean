import BridgedDenom.Json.Reader
import BridgedDenom.Proofs.Json.Text

/-!
# Laying out documents

A document may be written with blanks between its marks, and `Laid` says so for every
document: words and quoted texts stand as they are, and what stands between brackets is
separated by commas, with blanks around every mark.  The reader reads all of these texts, as
long as the document is not nested too deeply, and nothing behind a document is touched
(`Laid.finds`).  By induction on the layout; the calls of the reader go down with the
length of what is left to read, twice as fast, since a bracket costs two calls.

The pretty form is one of these layouts (`laid_prettyFrom`), so it is read back as the
document that was written (`read_pretty`).

How numbers are read is left open here.  A `Word` is a text outside quotes that is read as a
document wherever it ends, and a document is `Legible` if all its parts that are neither
quoted nor bracketed are written as words, as `null` and the truth values are (`word_of_mem`).
-/

namespace BridgedDenom

open Text (Flaw)

namespace Json

/-! ## Gaps and words -/

/-- Blanks between two parts of a document. -/
def IsGap (s : Text) : Prop := ∀ c ∈ s, isSpace c = true

/-- A word ends here: at a blank, a comma, a closing bracket or the end of the text. -/
def EndsWord (s : Text) : Prop := ∀ c ∈ s.head?, isSpace c = true ∨ c ∈ [',', ']', '\x7d']

/-- A document starts here: with neither a blank nor a closing bracket. -/
def StartsPart (s : Text) : Prop := ∃ c tail, s = c :: tail ∧ isSpace c = false ∧ c ≠ ']'

/-- A text outside quotes that is read as a document wherever it ends. -/
structure Word (document : Json) (s : Text) : Prop where
  /-- It starts neither with a blank nor with a quote or a bracket. -/
  starts : ∃ c rest, s = c :: rest ∧ isSpace c = false ∧ c ∉ ['"', '[', ']', '\x7b', '\x7d']
  reads : ∀ rest, EndsWord rest → readPlain (s ++ rest) = .ok (document, rest)

section
variable {gap s rest : Text} {c : Char}

theorem isGap_nil : IsGap [] := by
  intro c mem
  cases mem

theorem isGap_singleton (blank : isSpace c = true) : IsGap [c] := by
  intro d mem
  rw [List.mem_singleton.mp mem]
  exact blank

theorem isGap_newLine (indent : Nat) : IsGap (newLine indent) := by
  intro c mem
  rcases List.mem_cons.mp mem with rfl | mem
  · rfl
  · rw [List.eq_of_mem_replicate mem]
    rfl

theorem skip_cons (solid : isSpace c = false) : skip (c :: rest) = c :: rest := by
  simp [skip, solid]

/-- Blanks are passed over up to the next part. -/
theorem skip_gap (isGap : IsGap gap) (solid : isSpace c = false) :
    skip (gap ++ c :: rest) = c :: rest := by
  rw [skip, List.dropWhile_append_of_pos isGap]
  exact skip_cons solid

theorem skip_of_isGap (isGap : IsGap gap) : skip gap = [] := by
  rw [skip, ← List.append_nil gap, List.dropWhile_append_of_pos isGap]
  rfl

theorem endsWord_gap (isGap : IsGap gap) (mark : c ∈ [',', ']', '\x7d']) :
    EndsWord (gap ++ c :: rest) := by
  intro d first
  cases gap with
  | nil =>
      cases first
      exact .inr mark
  | cons blank gap =>
      obtain rfl : blank = d := Option.some.inj first
      exact .inl (isGap blank List.mem_cons_self)

theorem endsWord_of_isGap (isGap : IsGap gap) : EndsWord gap :=
  fun c first => .inl (isGap c (List.mem_of_mem_head? first))

/-- The words of the language are words wherever they end. -/
theorem word_of_mem {document : Json} (mem : (s, document) ∈ words) : Word document s := by
  simp only [words, List.mem_cons, Prod.mk.injEq, List.not_mem_nil, or_false] at mem
  rcases mem with ⟨rfl, rfl⟩ | ⟨rfl, rfl⟩ | ⟨rfl, rfl⟩ | ⟨rfl, rfl⟩ | ⟨rfl, rfl⟩ | ⟨rfl, rfl⟩ <;>
    exact ⟨⟨_, _, rfl, by decide, by decide⟩, fun rest _ => rfl⟩

end

/-! ## Layouts -/

mutual

/-- The text is the document, with blanks between its parts. -/
inductive Laid : Json → Text → Prop where
  | word {document : Json} {s : Text} : Word document s → Laid document s
  | text (t : Text) : Laid (.text t) (quoted t)
  | emptyList {gap : Text} : IsGap gap → Laid (.list []) ('[' :: gap ++ [']'])
  | list {items : List Json} {gap s : Text} : IsGap gap → LaidItems items s →
      Laid (.list items) ('[' :: gap ++ s)
  | emptyObject {gap : Text} : IsGap gap → Laid (.object []) ('\x7b' :: gap ++ ['\x7d'])
  | object {entries : List (Text × Json)} {gap s : Text} : IsGap gap → LaidEntries entries s →
      Laid (.object entries) ('\x7b' :: gap ++ s)

/-- The text is one item or more, up to the closing bracket. -/
inductive LaidItems : List Json → Text → Prop where
  | last {item : Json} {s gap : Text} : Laid item s → IsGap gap →
      LaidItems [item] (s ++ (gap ++ [']']))
  | more {item : Json} {items : List Json} {s gap gap' rest : Text} : Laid item s → IsGap gap →
      IsGap gap' → LaidItems items rest →
      LaidItems (item :: items) (s ++ (gap ++ ',' :: (gap' ++ rest)))

/-- The text is one entry or more, up to the closing bracket. -/
inductive LaidEntries : List (Text × Json) → Text → Prop where
  | last {key : Text} {document : Json} {s gap : Text} : LaidEntry key document s → IsGap gap →
      LaidEntries [(key, document)] (s ++ (gap ++ ['\x7d']))
  | more {key : Text} {document : Json} {entries : List (Text × Json)} {s gap gap' rest : Text} :
      LaidEntry key document s → IsGap gap → IsGap gap' → LaidEntries entries rest →
      LaidEntries ((key, document) :: entries) (s ++ (gap ++ ',' :: (gap' ++ rest)))

/-- The text is the name and the document of an entry. -/
inductive LaidEntry : Text → Json → Text → Prop where
  | entry {key : Text} {document : Json} {s gap gap' : Text} : IsGap gap → IsGap gap' →
      Laid document s → LaidEntry key document (quoted key ++ (gap ++ ':' :: (gap' ++ s)))

end

mutual

/-- How many brackets stand inside one another. -/
def nesting : Json → Nat
  | .list items => nestingItems items + 1
  | .object entries => nestingEntries entries + 1
  | _ => 0

def nestingItems : List Json → Nat
  | [] => 0
  | item :: rest => max (nesting item) (nestingItems rest)

def nestingEntries : List (Text × Json) → Nat
  | [] => 0
  | (_, document) :: rest => max (nesting document) (nestingEntries rest)

end

/-! ## Reading a layout -/

section
variable {document : Json} {items : List Json} {entries : List (Text × Json)} {s gap rest : Text}
  {room depth : Nat}

theorem Laid.startsPart (laid : Laid document s) : StartsPart s := by
  cases laid with
  | word word =>
      obtain ⟨c, tail, same, solid, other⟩ := word.starts
      refine ⟨c, tail, same, solid, ?_⟩
      rintro rfl
      exact other (by decide)
  | text | emptyList | list | emptyObject | object => exact ⟨_, _, rfl, by decide, by decide⟩

theorem LaidItems.startsPart (laid : LaidItems items s) : StartsPart s := by
  cases laid with
  | last item | more item =>
      obtain ⟨c, tail, rfl, solid, other⟩ := item.startsPart
      exact ⟨c, _, rfl, solid, other⟩

theorem LaidEntries.exists_start (laid : LaidEntries entries s) : ∃ tail, s = '"' :: tail := by
  cases laid with
  | last entry | more entry =>
      cases entry
      exact ⟨_, rfl⟩

theorem readFrom_word (word : Word document s) (ends : EndsWord rest) :
    readFrom room (depth + 1) (s ++ rest) = .ok (document, rest) := by
  obtain ⟨c, tail, rfl, -, other⟩ := word.starts
  have read := word.reads rest ends
  simp only [List.mem_cons, List.not_mem_nil, or_false, not_or] at other
  obtain ⟨notQuote, notList, -, notObject, -⟩ := other
  rw [List.cons_append] at read ⊢
  rw [readFrom.eq_def]
  simp only [if_neg notQuote, if_neg notList, if_neg notObject]
  exact read

theorem readFrom_text (t rest : Text) :
    readFrom room (depth + 1) (quoted t ++ rest) = .ok (.text t, rest) := by
  have read := readText?_quoted t rest
  rw [quoted, List.cons_append, List.cons_append, List.append_assoc, List.singleton_append,
    readFrom.eq_def]
  simp only [read]
  rfl

theorem readFrom_emptyList (isGap : IsGap gap) :
    readFrom (room + 1) (depth + 1) (('[' :: gap ++ [']']) ++ rest) = .ok (.list [], rest) := by
  have skipped : skip (gap ++ ']' :: rest) = ']' :: rest := skip_gap isGap (by decide)
  rw [List.cons_append, List.cons_append, List.append_assoc, List.singleton_append, readFrom,
    if_neg (by decide), if_pos rfl]
  simp only [skipped]

theorem readFrom_list (isGap : IsGap gap) (start : StartsPart s)
    (read : readItems room depth (s ++ rest) = .ok (items, rest)) :
    readFrom (room + 1) (depth + 1) (('[' :: gap ++ s) ++ rest) = .ok (.list items, rest) := by
  obtain ⟨c, tail, rfl, solid, other⟩ := start
  have skipped : skip (gap ++ (c :: tail ++ rest)) = c :: tail ++ rest := skip_gap isGap solid
  rw [List.cons_append, List.cons_append, List.append_assoc, readFrom, if_neg (by decide),
    if_pos rfl]
  simp only [skipped]
  split
  · next closed => exact absurd (List.cons.inj closed).1 other
  · rw [read]
    rfl

theorem readFrom_emptyObject (isGap : IsGap gap) :
    readFrom (room + 1) (depth + 1) (('\x7b' :: gap ++ ['\x7d']) ++ rest)
      = .ok (.object [], rest) := by
  have skipped : skip (gap ++ '\x7d' :: rest) = '\x7d' :: rest := skip_gap isGap (by decide)
  rw [List.cons_append, List.cons_append, List.append_assoc, List.singleton_append, readFrom,
    if_neg (by decide), if_neg (by decide), if_pos rfl]
  simp only [skipped]

theorem readFrom_object (isGap : IsGap gap) (start : ∃ tail, s = '"' :: tail)
    (read : readEntries room depth (s ++ rest) = .ok (entries, rest)) :
    readFrom (room + 1) (depth + 1) (('\x7b' :: gap ++ s) ++ rest)
      = .ok (.object entries, rest) := by
  obtain ⟨tail, rfl⟩ := start
  have skipped : skip (gap ++ '"' :: (tail ++ rest)) = '"' :: (tail ++ rest) :=
    skip_gap isGap (by decide)
  rw [List.cons_append] at read
  rw [List.cons_append, List.cons_append, List.append_assoc, List.cons_append, readFrom,
    if_neg (by decide), if_neg (by decide), if_pos rfl]
  simp only [skipped]
  split
  · next closed => cases (List.cons.inj closed).1
  · rw [read]
    rfl

/-- The document is read off the start of every text in which its own text ends. -/
def Finds (room depth : Nat) (s : Text) (document : Json) : Prop :=
  ∀ rest, EndsWord rest → readFrom room depth (s ++ rest) = .ok (document, rest)

theorem readItems_last {item : Json} (found : Finds room depth s item) (isGap : IsGap gap) :
    readItems room (depth + 1) ((s ++ (gap ++ [']'])) ++ rest) = .ok ([item], rest) := by
  have read := found (gap ++ ']' :: rest) (endsWord_gap isGap (by decide))
  have skipped : skip (gap ++ ']' :: rest) = ']' :: rest := skip_gap isGap (by decide)
  simp only [List.append_assoc, List.singleton_append, readItems, read, skipped, bind, Except.bind,
    pure, Except.pure]

theorem readItems_more {item : Json} {gap' inner : Text} (found : Finds room depth s item)
    (isGap : IsGap gap) (isGap' : IsGap gap') (laid : LaidItems items inner)
    (others : readItems room depth (inner ++ rest) = .ok (items, rest)) :
    readItems room (depth + 1) ((s ++ (gap ++ ',' :: (gap' ++ inner))) ++ rest)
      = .ok (item :: items, rest) := by
  obtain ⟨c, tail, rfl, solid, -⟩ := laid.startsPart
  have read := found (gap ++ ',' :: (gap' ++ (c :: tail ++ rest))) (endsWord_gap isGap (by decide))
  have skipped : skip (gap ++ ',' :: (gap' ++ (c :: tail ++ rest)))
      = ',' :: (gap' ++ (c :: tail ++ rest)) := skip_gap isGap (by decide)
  have skipped' : skip (gap' ++ (c :: tail ++ rest)) = c :: tail ++ rest := skip_gap isGap' solid
  simp only [List.append_assoc, List.cons_append] at read skipped skipped' others ⊢
  simp only [readItems, read, skipped, skipped', others, bind, Except.bind, pure, Except.pure]

/-- What is done behind an entry. -/
def afterEntry (room depth : Nat) (key : Text) (found : Json × Text) :
    Except Flaw (List (Text × Json) × Text) :=
  match skip found.2 with
  | ',' :: rest => do
      let (entries, rest) ← readEntries room depth (skip rest)
      pure ((key, found.1) :: entries, rest)
  | '\x7d' :: rest => pure ([(key, found.1)], rest)
  | _ => throw .form

/-- The entry is read off the start of every text in which its own text ends. -/
def FindsEntry (room depth : Nat) (s key : Text) (document : Json) : Prop :=
  ∀ tail, EndsWord tail →
    readEntries room (depth + 1) (s ++ tail) = afterEntry room depth key (document, tail)

theorem findsEntry_entry {key before : Text} (found : Finds room depth s document)
    (isBefore : IsGap before) (isGap : IsGap gap) (start : StartsPart s) :
    FindsEntry room depth (quoted key ++ (before ++ ':' :: (gap ++ s))) key document := by
  intro tail ends
  obtain ⟨c, rest, rfl, solid, -⟩ := start
  have named := readText?_quoted key (before ++ ':' :: (gap ++ (c :: rest ++ tail)))
  have colon : skip (before ++ ':' :: (gap ++ (c :: rest ++ tail)))
      = ':' :: (gap ++ (c :: rest ++ tail)) := skip_gap isBefore (by decide)
  have skipped : skip (gap ++ (c :: rest ++ tail)) = c :: rest ++ tail := skip_gap isGap solid
  have read := found tail ends
  simp only [quoted, List.append_assoc, List.cons_append, List.nil_append]
    at named colon skipped read ⊢
  simp only [readEntries, named, Flaw.require, colon, skipped, read, bind, Except.bind]
  rfl

theorem readEntries_last {key : Text} (found : FindsEntry room depth s key document)
    (isGap : IsGap gap) :
    readEntries room (depth + 1) ((s ++ (gap ++ ['\x7d'])) ++ rest)
      = .ok ([(key, document)], rest) := by
  have read := found (gap ++ '\x7d' :: rest) (endsWord_gap isGap (by decide))
  have skipped : skip (gap ++ '\x7d' :: rest) = '\x7d' :: rest := skip_gap isGap (by decide)
  rw [List.append_assoc, List.append_assoc, List.singleton_append, read]
  simp only [afterEntry, skipped]
  rfl

theorem readEntries_more {key gap' inner : Text} (found : FindsEntry room depth s key document)
    (isGap : IsGap gap) (isGap' : IsGap gap') (laid : LaidEntries entries inner)
    (others : readEntries room depth (inner ++ rest) = .ok (entries, rest)) :
    readEntries room (depth + 1) ((s ++ (gap ++ ',' :: (gap' ++ inner))) ++ rest)
      = .ok ((key, document) :: entries, rest) := by
  obtain ⟨tail, rfl⟩ := laid.exists_start
  have read := found (gap ++ ',' :: (gap' ++ ('"' :: tail ++ rest)))
    (endsWord_gap isGap (by decide))
  have skipped : skip (gap ++ ',' :: (gap' ++ ('"' :: tail ++ rest)))
      = ',' :: (gap' ++ ('"' :: tail ++ rest)) := skip_gap isGap (by decide)
  have skipped' : skip (gap' ++ ('"' :: tail ++ rest)) = '"' :: tail ++ rest :=
    skip_gap isGap' (by decide)
  rw [List.append_assoc, List.append_assoc, List.cons_append, List.append_assoc, read]
  simp only [afterEntry, skipped, skipped', others]
  rfl

end

mutual

/-- With calls enough for twice its length, a document is found in its layout. -/
theorem Laid.finds {document : Json} {s : Text} {room depth : Nat} :
    Laid document s → nesting document ≤ room → 2 * s.length ≤ depth →
      Finds room depth s document
  | .word word, _, enough => by
      obtain ⟨c, tail, rfl, -⟩ := word.starts
      obtain ⟨d, rfl⟩ := Nat.exists_eq_add_one.mpr (show 0 < depth by simp at enough; omega)
      exact fun rest ends => readFrom_word word ends
  | .text t, _, enough => by
      rw [quoted, List.length_append, List.length_cons] at enough
      obtain ⟨d, rfl⟩ := Nat.exists_eq_add_one.mpr (show 0 < depth by omega)
      exact fun rest _ => readFrom_text t rest
  | .emptyList isGap, deep, enough => by
      obtain ⟨d, rfl⟩ := Nat.exists_eq_add_one.mpr (show 0 < depth by simp at enough; omega)
      obtain ⟨r, rfl⟩ := Nat.exists_eq_add_one.mpr (Nat.lt_of_lt_of_le (Nat.succ_pos _) deep)
      exact fun rest _ => readFrom_emptyList isGap
  | .list isGap items, deep, enough => by
      simp only [List.length_append, List.length_cons] at enough
      obtain ⟨d, rfl⟩ := Nat.exists_eq_add_one.mpr (show 0 < depth by omega)
      obtain ⟨r, rfl⟩ := Nat.exists_eq_add_one.mpr (Nat.lt_of_lt_of_le (Nat.succ_pos _) deep)
      exact fun rest _ => readFrom_list isGap items.startsPart
        (items.read (Nat.le_of_succ_le_succ deep) (by omega) rest)
  | .emptyObject isGap, deep, enough => by
      obtain ⟨d, rfl⟩ := Nat.exists_eq_add_one.mpr (show 0 < depth by simp at enough; omega)
      obtain ⟨r, rfl⟩ := Nat.exists_eq_add_one.mpr (Nat.lt_of_lt_of_le (Nat.succ_pos _) deep)
      exact fun rest _ => readFrom_emptyObject isGap
  | .object isGap entries, deep, enough => by
      simp only [List.length_append, List.length_cons] at enough
      obtain ⟨d, rfl⟩ := Nat.exists_eq_add_one.mpr (show 0 < depth by omega)
      obtain ⟨r, rfl⟩ := Nat.exists_eq_add_one.mpr (Nat.lt_of_lt_of_le (Nat.succ_pos _) deep)
      exact fun rest _ => readFrom_object isGap entries.exists_start
        (entries.read (Nat.le_of_succ_le_succ deep) (by omega) rest)

theorem LaidItems.read {items : List Json} {s : Text} {room depth : Nat} :
    LaidItems items s → nestingItems items ≤ room → 2 * s.length + 1 ≤ depth →
      ∀ rest, readItems room depth (s ++ rest) = .ok (items, rest)
  | .last item isGap, deep, enough => by
      simp only [List.length_append] at enough
      obtain ⟨d, rfl⟩ := Nat.exists_eq_add_one.mpr (show 0 < depth by omega)
      exact fun rest =>
        readItems_last (item.finds (Nat.le_trans (Nat.le_max_left _ _) deep) (by omega)) isGap
  | .more item isGap isGap' items, deep, enough => by
      simp only [List.length_append, List.length_cons] at enough
      obtain ⟨d, rfl⟩ := Nat.exists_eq_add_one.mpr (show 0 < depth by omega)
      exact fun rest =>
        readItems_more (item.finds (Nat.le_trans (Nat.le_max_left _ _) deep) (by omega)) isGap
          isGap' items (items.read (Nat.le_trans (Nat.le_max_right _ _) deep) (by omega) rest)

theorem LaidEntries.read {entries : List (Text × Json)} {s : Text} {room depth : Nat} :
    LaidEntries entries s → nestingEntries entries ≤ room → 2 * s.length + 1 ≤ depth →
      ∀ rest, readEntries room depth (s ++ rest) = .ok (entries, rest)
  | .last entry isGap, deep, enough => by
      simp only [List.length_append] at enough
      obtain ⟨d, rfl⟩ := Nat.exists_eq_add_one.mpr (show 0 < depth by omega)
      exact fun rest =>
        readEntries_last (entry.finds (Nat.le_trans (Nat.le_max_left _ _) deep) (by omega)) isGap
  | .more entry isGap isGap' entries, deep, enough => by
      simp only [List.length_append, List.length_cons] at enough
      obtain ⟨d, rfl⟩ := Nat.exists_eq_add_one.mpr (show 0 < depth by omega)
      exact fun rest =>
        readEntries_more (entry.finds (Nat.le_trans (Nat.le_max_left _ _) deep) (by omega)) isGap
          isGap' entries (entries.read (Nat.le_trans (Nat.le_max_right _ _) deep) (by omega) rest)

theorem LaidEntry.finds {key : Text} {document : Json} {s : Text} {room depth : Nat} :
    LaidEntry key document s → nesting document ≤ room → 2 * s.length ≤ depth →
      FindsEntry room depth s key document
  | .entry isGap isGap' laid, deep, enough => by
      simp only [List.length_append, List.length_cons] at enough
      exact findsEntry_entry (laid.finds deep (by omega)) isGap isGap' laid.startsPart

end

/-- A document is read from a layout with blanks around it, if there is room for its brackets. -/
theorem read_laid {document : Json} {s before after : Text} (laid : Laid document s)
    (deep : nesting document ≤ nestingLimit) (isBefore : IsGap before) (isAfter : IsGap after) :
    Json.read (before ++ (s ++ after)) = .ok document := by
  obtain ⟨c, tail, same, solid, -⟩ := laid.startsPart
  have skipped : skip (before ++ (s ++ after)) = s ++ after := by
    rw [same]
    exact skip_gap isBefore solid
  have found : Finds nestingLimit (2 * (before ++ (s ++ after)).length + 2) s document :=
    laid.finds deep (by simp only [List.length_append]; omega)
  rw [Json.read, skipped, found after (endsWord_of_isGap isAfter)]
  simp only [bind, Except.bind, skip_of_isGap isAfter]
  rfl

/-! ## The pretty form -/

mutual

/-- Whatever is neither quoted nor bracketed in the document is written as a word. -/
def Legible : Json → Prop
  | .text _ => True
  | .list items => LegibleItems items
  | .object entries => LegibleEntries entries
  | document => Word document document.scalar

def LegibleItems : List Json → Prop
  | [] => True
  | item :: rest => Legible item ∧ LegibleItems rest

def LegibleEntries : List (Text × Json) → Prop
  | [] => True
  | (_, document) :: rest => Legible document ∧ LegibleEntries rest

end

/-- An entry as it stands in the pretty form. -/
theorem laidEntry_pretty {document : Json} {s : Text} (key : Text) (laid : Laid document s) :
    LaidEntry key document (quoted key ++ ": ".toList ++ s) := by
  have isGap : IsGap [' '] := isGap_singleton rfl
  have entry : LaidEntry key document (quoted key ++ ([] ++ ':' :: ([' '] ++ s))) :=
    .entry isGap_nil isGap laid
  rw [List.append_assoc]
  exact entry

mutual

theorem laid_prettyFrom (indent : Nat) :
    ∀ document, Legible document → Laid document (prettyFrom indent document)
  | .null, word | .bool _, word | .int _, word | .float _, word => .word word
  | .text t, _ => .text t
  | .list [], _ => .emptyList isGap_nil
  | .list (item :: rest), legible => by
      have laid := Laid.list (isGap_newLine (indent + 2))
        (laid_prettyItems indent (item :: rest) (List.cons_ne_nil _ _) legible)
      simpa only [prettyFrom, List.append_assoc] using laid
  | .object [], _ => .emptyObject isGap_nil
  | .object (entry :: rest), legible => by
      have laid := Laid.object (isGap_newLine (indent + 2))
        (laid_prettyEntries indent (entry :: rest) (List.cons_ne_nil _ _) legible)
      simpa only [prettyFrom, List.append_assoc] using laid

theorem laid_prettyItems (indent : Nat) : ∀ items, items ≠ [] → LegibleItems items →
    LaidItems items (Text.join (',' :: newLine (indent + 2)) (prettyItems (indent + 2) items)
      ++ (newLine indent ++ [']']))
  | [item], _, legible => .last (laid_prettyFrom (indent + 2) item legible.1) (isGap_newLine indent)
  | item :: next :: rest, _, legible => by
      have laid := LaidItems.more (laid_prettyFrom (indent + 2) item legible.1) isGap_nil
        (isGap_newLine (indent + 2))
        (laid_prettyItems indent (next :: rest) (List.cons_ne_nil _ _) legible.2)
      simpa only [prettyItems, Text.join, List.append_assoc, List.cons_append,
        List.nil_append] using laid

theorem laid_prettyEntries (indent : Nat) : ∀ entries, entries ≠ [] → LegibleEntries entries →
    LaidEntries entries (Text.join (',' :: newLine (indent + 2))
      (prettyEntries (indent + 2) entries) ++ (newLine indent ++ ['\x7d']))
  | [(key, document)], _, legible => by
      have entry := laidEntry_pretty key (laid_prettyFrom (indent + 2) document legible.1)
      have laid := LaidEntries.last entry (isGap_newLine indent)
      simpa only [prettyEntries, Text.join, List.append_assoc, List.cons_append,
        List.nil_append] using laid
  | (key, document) :: next :: rest, _, legible => by
      have entry := laidEntry_pretty key (laid_prettyFrom (indent + 2) document legible.1)
      have laid := LaidEntries.more entry isGap_nil (isGap_newLine (indent + 2))
        (laid_prettyEntries indent (next :: rest) (List.cons_ne_nil _ _) legible.2)
      simpa only [prettyEntries, Text.join, List.append_assoc, List.cons_append,
        List.nil_append] using laid

end

/-- The pretty form of a document is read back as the document, with blanks around it or
without. -/
theorem read_pretty {document : Json} {before after : Text} (legible : Legible document)
    (deep : nesting document ≤ nestingLimit) (isBefore : IsGap before) (isAfter : IsGap after) :
    Json.read (before ++ (document.pretty ++ after)) = .ok document :=
  read_laid (laid_prettyFrom 0 document legible) deep isBefore isAfter

end Json

end BridgedDenom
