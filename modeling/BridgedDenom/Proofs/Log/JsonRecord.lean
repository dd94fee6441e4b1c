import BridgedDenom.Proofs.Json.Compact
import BridgedDenom.Proofs.Log.Runs

/-!
# Records in JSON

A record without a failure whose message can be made and whose fields can be written is written
in JSON as one line, and the line is read back as one object (`json_exact`).  No field can pass
for a part of the record.

*Fields.*  Merging sets one field after the other, so no name stands twice
(`Fields.nodup_merge`), no field is made up (`Fields.mem_merge`), and of each name the last one
counts (`Fields.lookup_merge`).

*Entries.*  The leading parts of a record come first and a field of such a name is left out
(`entries_of_alone`), so the names differ (`nodup_entries`).  Under a leading name there is the
record's own part, and under any other name there is the field (`lookup_entries`).

*Reading back.*  A logged value has no parts (`nesting_logged`), so the object is never too deep
to be read.  What remains is the length of the integers, which a reader bounds; but the same bound
holds for what is written (`shortIntegers_logged`).
-/

namespace BridgedDenom

/-- Under a name that is kept the same is found as before. -/
theorem lookup_filter {α : Type} (keep : Text → Bool) {name : Text} (kept : keep name = true)
    (entries : List (Text × α)) :
    (entries.filter fun entry => keep entry.1).lookup name = entries.lookup name := by
  induction entries with
  | nil => rfl
  | cons entry rest ih =>
      obtain ⟨key, a⟩ := entry
      by_cases same : name = key
      · subst same
        rw [List.filter_cons, if_pos kept, List.lookup_cons_self, List.lookup_cons_self]
      · have other : (name == key) = false := beq_false_of_ne same
        rw [List.filter_cons, List.lookup_cons, other]
        split
        · rw [List.lookup_cons, other]
          exact ih
        · exact ih

/-! ## Logged values -/

namespace Json

theorem shortEntries_of_forall {entries : List (Text × Json)}
    (short : ∀ entry ∈ entries, ShortIntegers entry.2) : ShortEntries entries := by
  induction entries with
  | nil => trivial
  | cons entry rest ih =>
      obtain ⟨first, others⟩ := List.forall_mem_cons.mp short
      exact ⟨first, ih others⟩

theorem nestingEntries_of_forall {entries : List (Text × Json)}
    (flat : ∀ entry ∈ entries, nesting entry.2 = 0) : nestingEntries entries = 0 := by
  induction entries with
  | nil => rfl
  | cons entry rest ih =>
      obtain ⟨first, others⟩ := List.forall_mem_cons.mp flat
      rw [nestingEntries, first, ih others, Nat.max_self]

end Json

/-- An integer that is written has no more digits than a reader takes. -/
theorem shortIntegers_logged {v : Value} (written : v.hasText .usual = true) :
    Json.ShortIntegers v.logged := by
  cases v with
  | int n =>
      simpa [Value.hasText, Value.parts, Value.spelledInteger?, Decimal.written?,
        DigitLimit.admits, DigitLimit.usual, Json.ShortIntegers, Value.logged] using written
  | bytes form => cases form <;> trivial
  | _ => trivial

/-- A logged value has no parts. -/
theorem nesting_logged (v : Value) : Json.nesting v.logged = 0 := by
  cases v with
  | bytes form => cases form <;> rfl
  | _ => rfl

namespace Record

/-! ## Entries -/

section
variable {record : Record} {bound : Fields} {message name : Text}

/-- The parts that a record starts with. -/
def leading (record : Record) (message : Text) : List (Text × Json) :=
  leadingNames.zip
    [.text record.moment.stamp, .text record.event.level.name, .text record.event.logger,
     .text message]

/-- The fields that do not take the name of a leading part. -/
def others (bound : Fields) (record : Record) : List (Text × Json) :=
  (record.loggedFields bound).filter fun entry => !leadingNames.contains entry.1

theorem entries_of_alone (alone : record.cause = none) (bound : Fields) (message : Text) :
    record.entries bound message = record.leading message ++ record.others bound := by
  rw [entries, alone]
  rfl

theorem names_leading (record : Record) (message : Text) :
    (record.leading message).map Prod.fst = leadingNames :=
  rfl

/-- An entry behind the leading parts is a field. -/
theorem exists_of_mem_others {entry : Text × Json} (mem : entry ∈ record.others bound) :
    entry.1 ∉ leadingNames ∧ ∃ v, (entry.1, v) ∈ record.fields bound ∧ entry.2 = v.logged := by
  obtain ⟨logged, kept⟩ := List.mem_filter.mp mem
  obtain ⟨⟨name, v⟩, field, rfl⟩ := List.mem_map.mp logged
  exact ⟨by simpa using kept, v, field, rfl⟩

/-- Where a record is written, so is every field without a leading name. -/
theorem hasText_of_fits (alone : record.cause = none)
    (fits : record.fits .usual .json bound = true) {v : Value}
    (mem : (name, v) ∈ record.fields bound) (free : name ∉ leadingNames) :
    v.hasText .usual = true := by
  have kept := List.all_eq_true.mp (Bool.and_eq_true_iff.mp fits).2 _ mem
  simpa [isOwn, alone, free] using kept

theorem nodup_entries (alone : record.cause = none) (message : Text)
    (distinct : (bound.map Prod.fst).Nodup) :
    ((record.entries bound message).map Prod.fst).Nodup := by
  have fields : ((record.loggedFields bound).map Prod.fst).Nodup := by
    have names : (record.loggedFields bound).map Prod.fst
        = (record.fields bound).map Prod.fst := List.map_map
    rw [names]
    exact Fields.nodup_merge _ distinct
  have behind : ((record.others bound).map Prod.fst).Nodup :=
    fields.sublist (List.filter_sublist.map Prod.fst)
  have leads : leadingNames.Nodup := by decide
  rw [entries_of_alone alone, List.map_append, names_leading]
  refine List.nodup_append.mpr ⟨leads, behind, fun name lead key mem same => ?_⟩
  obtain ⟨entry, other, rfl⟩ := List.mem_map.mp mem
  exact (exists_of_mem_others other).1 (same ▸ lead)

theorem lookup_entries (alone : record.cause = none) (message : Text)
    (free : name ∉ leadingNames) :
    (record.entries bound message).lookup name
      = ((record.fields bound).lookup name).map Value.logged := by
  have ahead : (record.leading message).lookup name = none :=
    List.lookup_eq_none_iff.mpr fun entry mem => by
      have lead : entry.1 ∈ leadingNames := by
        rw [← names_leading record message]
        exact List.mem_map_of_mem mem
      have other : name ≠ entry.1 := fun same => free (same ▸ lead)
      exact bne_iff_ne.mpr other
  have kept : (!leadingNames.contains name) = true := by simpa using free
  rw [entries_of_alone alone, List.lookup_append, ahead, Option.none_or, others,
    lookup_filter (fun name => !leadingNames.contains name) kept, loggedFields, Fields.lookup_map]

/-- The fields of the event count more than the context. -/
theorem lookup_fields (bound : Fields) (record : Record) (name : Text) :
    (record.fields (Fields.merge [] bound)).lookup name
      = ((record.extras.reverse.lookup name).or (bound.reverse.lookup name)) := by
  rw [fields, ← Fields.merge_append, Fields.lookup_merge, List.reverse_append,
    List.lookup_append]

/-! ## Reading back -/

theorem read_entries (alone : record.cause = none)
    (fits : record.fits .usual .json bound = true) (message : Text) :
    Json.read (Json.object (record.entries bound message)).compact
      = .ok (.object (record.entries bound message)) := by
  have entry : ∀ entry ∈ record.entries bound message,
      Json.ShortIntegers entry.2 ∧ Json.nesting entry.2 = 0 := by
    rw [entries_of_alone alone]
    refine List.forall_mem_append.mpr ⟨?leading, fun entry mem => ?others⟩
    case leading => simp [leading, leadingNames, Json.ShortIntegers, Json.nesting]
    case others =>
      obtain ⟨free, v, field, same⟩ := exists_of_mem_others mem
      rw [same]
      exact ⟨shortIntegers_logged (hasText_of_fits alone fits field free), nesting_logged v⟩
  refine Json.read_compact (Json.shortEntries_of_forall fun e mem => (entry e mem).1) ?_
  rw [Json.nesting, Json.nestingEntries_of_forall fun e mem => (entry e mem).2]
  decide

/-- **Records in JSON.**  A record without a failure has a text if its message can be made and its
fields can be written; the failure to make the message comes out of it first, and then the failure
to write an integer of too many digits.  Fields can be written if they hold no such integer.

The text is one line, since all its characters are printable ones of ASCII, and it is read back as
one object without a name twice.  Under the leading names stand the parts of the record itself,
whatever the fields are.  Under any other name stands the last field of the event with that name
that is written; if there is none, the last one of the context; and else nothing. -/
theorem json_exact (alone : record.cause = none) :
    let context := Fields.merge [] bound
    let made := (record.event.message .usual).outcome
    let fits := record.fits .usual .json context
    (∀ failure, made = .error failure →
      (record.json .usual context).outcome = .error failure) ∧
    (∀ message, made = .ok message → fits = false →
      (record.json .usual context).outcome = .error .badValue) ∧
    ((∀ field ∈ bound ++ record.event.fields, field.2.hasText .usual = true) → fits = true) ∧
    (∀ message, made = .ok message → fits = true → ∃ s entries,
      (record.json .usual context).outcome = .ok s ∧
      Json.IsPrintable s ∧
      Json.read s = .ok (.object entries) ∧
      (entries.map Prod.fst).Nodup ∧
      entries.lookup "ts".toList = some (.text record.moment.stamp) ∧
      entries.lookup "level".toList = some (.text record.event.level.name) ∧
      entries.lookup "logger".toList = some (.text record.event.logger) ∧
      entries.lookup "msg".toList = some (.text message) ∧
      ∀ name, name ∉ leadingNames → entries.lookup name
        = ((record.extras.reverse.lookup name).or
            (bound.reverse.lookup name)).map Value.logged) := by
  intro context made fits
  refine ⟨fun failure unmade => outcome_lineWithin_of_error unmade,
    fun message isMade unfit => outcome_lineWithin_of_not_fits isMade unfit,
    fits_merge_of_hasText .json, fun message isMade isFit => ?written⟩
  case written =>
    have distinct : (context.map Prod.fst).Nodup := Fields.nodup_merge bound List.nodup_nil
    refine ⟨_, record.entries context message, outcome_lineWithin_of_fits isMade isFit,
      Json.isPrintable_compact _, read_entries alone isFit message,
      nodup_entries alone message distinct, ?ts, ?level, ?logger, ?msg, fun name free => ?field⟩
    case field => rw [lookup_entries alone message free, lookup_fields]
    all_goals rw [entries_of_alone alone, List.lookup_append]; rfl

end

/-! ## Two records -/

/-- The context and the event name parts of the record, and a value breaks the line. -/
def forged : Record :=
  ⟨.start, ⟨Level.info, "peggy".toList, "one\ntwo".toList, [],
    [("ts".toList, .text "never".toList), ("user".toList, .text "\"\n\"msg\":".toList),
     ("_hidden".toList, .null), ("left".toList, .int 3)]⟩, none⟩

def forgedContext : Fields :=
  [("msg".toList, .text "forged".toList), ("user".toList, .text "nobody".toList),
   ("_kept".toList, .bytes .fixed [0x70])]

theorem json_exact_forged : ∃ s entries,
    (forged.json .usual (Fields.merge [] forgedContext)).outcome = .ok s ∧
    '\n' ∉ s ∧
    Json.read s = .ok (.object entries) ∧
    entries.lookup "ts".toList = some (.text "1970-01-01T00:00:00.000+00:00".toList) ∧
    entries.lookup "msg".toList = some (.text "one\ntwo".toList) ∧
    entries.lookup "user".toList = some (.text "\"\n\"msg\":".toList) ∧
    entries.lookup "_kept".toList = some (.text "70".toList) ∧
    entries.lookup "_hidden".toList = none := by
  have made : (forged.event.message .usual).outcome = .ok "one\ntwo".toList := rfl
  have fits : forged.fits .usual .json (Fields.merge [] forgedContext) = true := by decide +kernel
  obtain ⟨s, entries, written, printable, read, -, ts, -, -, msg, field⟩ :=
    (json_exact rfl).2.2.2 _ made fits
  have stamp : forged.moment.stamp = "1970-01-01T00:00:00.000+00:00".toList := by decide +kernel
  refine ⟨s, entries, written, fun mem => absurd (printable _ mem) (by decide), read,
    stamp ▸ ts, msg, ?_, ?_, ?_⟩
  · rw [field _ (by decide)]; rfl
  · rw [field _ (by decide)]; rfl
  · rw [field _ (by decide)]; rfl

/-- An argument with no place in the message leaves a record without a text. -/
theorem json_of_surplus :
    let record : Record := ⟨.start, Root.surplus, none⟩
    record.cause = none ∧ ¬ ∃ s, (record.json .usual []).outcome = .ok s := by
  intro record
  have failed : (record.json .usual []).outcome.toOption = none := by decide +kernel
  refine ⟨rfl, fun ⟨s, written⟩ => ?_⟩
  rw [written] at failed
  cases failed

end Record

end BridgedDenom
