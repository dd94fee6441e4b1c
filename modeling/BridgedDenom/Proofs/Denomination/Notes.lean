import BridgedDenom.Proofs.Denomination.Message
import BridgedDenom.Proofs.Log.Runs

/-!
# What reading a denomination notes

A denomination that is read is not noted.  Bytes that are refused are noted once, at the level
debug (`events_decodeBytes_of_error`).  So is a text that is refused for its lead; but a text that
is refused for what follows the lead is not noted at all (`events_decodeText_append`), since it
is the reader of addresses that refuses it, and this notes nothing.

A denomination in a message is noted once more, as a warning, if it is shown as its bytes
(`events_display_of_error`).

No note has arguments, so where the level lets debug through each is written as one record, if
its fields and those of the context can be written (`recorded_of_notes`).
-/

namespace BridgedDenom

open Attempt (Notes)

/-- The event is a note of a level by the reader of denominations, about the denomination of the
given text. -/
structure NotesDenom (level : Level) (shown : Text) (event : Event) : Prop where
  level_eq : event.level = level
  logger_eq : event.logger = Denomination.logger
  bare : event.arguments = []
  shows : event.fields.get? "denom".toList = some (.text shown)

theorem notesDenom_mk (level : Level) (template shown : Text) (more : Fields) :
    NotesDenom level shown
      ⟨level, Denomination.logger, template, [], ("denom".toList, .text shown) :: more⟩ :=
  ⟨rfl, rfl, rfl, List.lookup_cons_self⟩

/-- Wherever there is one handler with a format and a level that lets debug through, each event
of the computation is written as one record, its template being the message, if its fields can be
written; and they can if no integer in them or in the context has too many digits. -/
def Attempt.IsRecorded {α : Type} (x : Attempt α) : Prop :=
  ∀ (root : Root) (s : Setting) (moment : Moment),
    root.handlers = [⟨some s.format, s.stream⟩] → root.level ≤ Level.debug →
      root.writeAll moment x.events
        = x.events.filterMap (fun note => s.own? root.bound moment note note.template) ∧
      ∀ note ∈ x.events,
        (∀ field ∈ root.bound ++ note.fields, field.2.hasText .usual = true) →
          s.own? root.bound moment note note.template
            = some (s.written root.bound moment note note.template)

theorem recorded_of_notes {α : Type} {x : Attempt α} (notes : Notes IsNote x) : x.IsRecorded := by
  intro root s moment one least
  have through : (x.events.filter fun note => root.lets note.level) = x.events := by
    refine List.filter_eq_self.mpr fun note mem => ?_
    have high : Level.debug ≤ note.level := (notes note mem).debug_le
    have positive : 0 < note.level := Int.lt_of_lt_of_le (by decide) high
    simp [Root.lets, positive, Int.le_trans least high]
  rw [Root.writeAll_notes one moment fun note mem => (notes note mem).1, through]
  exact ⟨rfl, fun note _ short => if_pos (Record.fits_of_hasText s.format short)⟩

namespace Convention

open Denomination (logger)

section
variable {c : Convention} {data : Bytes} {s : Text} {a : Address} {failure : Failure}

/-! ## Bytes -/

theorem events_decodeBytes_of_ok (read : (c.decodeBytes data).outcome = .ok a) :
    (c.decodeBytes data).events = [] := by
  rw [decodeBytes_eq_ok_iff.mp read, events_decodeBytes_encode]

theorem events_decodeBytes_of_no_lead (h : ¬ c.leadBytes <+: data) :
    (c.decodeBytes data).events
      = [⟨Level.debug, logger, "denom byte prefix mismatch".toList, [],
          [("denom".toList, .text (Hex.encode data))]⟩] := by
  simp [decodeBytes, h]

theorem events_decodeBytes_of_length (c : Convention) {rest : Bytes}
    (h : rest.length ≠ Address.size) :
    (c.decodeBytes (c.leadBytes ++ rest)).events
      = [⟨Level.debug, logger, "denom address length mismatch".toList, [],
          [("denom".toList, .text (Hex.encode (c.leadBytes ++ rest))),
           ("length".toList, .int rest.length)]⟩] := by
  simp [decodeBytes, h]

/-- The cases are the two checks; each refuses with a note of its own. -/
theorem events_decodeBytes_of_error (refused : (c.decodeBytes data).outcome = .error failure) :
    ∃ note, (c.decodeBytes data).events = [note] ∧
      NotesDenom Level.debug (Hex.encode data) note := by
  rcases decodeBytes_eq_error_iff.mp refused with ⟨starts, -⟩ | ⟨rest, rfl, length, -⟩
  · rw [events_decodeBytes_of_no_lead starts]
    exact ⟨_, rfl, notesDenom_mk Level.debug _ _ []⟩
  · rw [events_decodeBytes_of_length c length]
    exact ⟨_, rfl, notesDenom_mk Level.debug _ _ [("length".toList, .int rest.length)]⟩

/-! ## Text -/

/-- Whatever follows the lead, nothing is noted. -/
theorem events_decodeText_append (c : Convention) (t : Text) :
    (c.decodeText (c.lead ++ t)).events = [] := by
  simp [decodeText]

theorem events_decodeText_of_no_lead (starts : ¬ c.lead <+: s) :
    ∃ note, (c.decodeText s).events = [note] ∧ NotesDenom Level.debug s note := by
  have noted : (c.decodeText s).events
      = [⟨Level.debug, logger, "denom string prefix mismatch".toList, [],
          [("denom".toList, .text s)]⟩] := by
    simp [decodeText, starts]
  exact ⟨_, noted, notesDenom_mk Level.debug _ s []⟩

theorem isAddressFault_refusal (t : Text) : (Address.refusal t).isAddressFault = true := by
  unfold Address.refusal
  split <;> rfl

theorem notes_decodeText (c : Convention) (s : Text) : Notes IsNote (c.decodeText s) := by
  by_cases starts : c.lead <+: s
  · obtain ⟨t, rfl⟩ := starts
    exact .of_events_nil (events_decodeText_append c t)
  · obtain ⟨note, noted, about⟩ := events_decodeText_of_no_lead starts
    rw [Notes, noted]
    exact List.forall_mem_singleton.mpr ⟨about.bare, .inl about.level_eq⟩

/-! ## Messages -/

theorem events_display_of_ok {d : Denomination} (read : d.contract.outcome = .ok a) :
    d.display.events = [] := by
  have readable : IsReadable (.denom d) := fun e same => by
    cases same
    exact ⟨a, read⟩
  exact Notes.events_nil (notes_display_of_isReadable readable)

theorem events_display_of_error {d : Denomination} (refused : d.contract.outcome = .error failure) :
    ∃ warning, d.display.events = d.contract.events ++ [warning] ∧
      NotesDenom Level.warning (Hex.encode d.bytes) warning := by
  have failed : (do return d.convention.denomText (← d.contract) : Attempt Text).outcome
      = .error failure := Attempt.outcome_bind_error refused _
  have noted : d.display.events = d.contract.events
      ++ [⟨Level.warning, logger, "unparseable peggy denom".toList, [],
          [("denom".toList, .text (Hex.encode d.bytes)),
           ("error".toList, .text failure.message)]⟩] := by
    refine (Attempt.events_tryCatch_error failed _).trans ?_
    rw [Attempt.events_bind_error refused, isDenomFault_of_decodeBytes refused]
    rfl
  exact ⟨_, noted, notesDenom_mk Level.warning _ _ [("error".toList, .text failure.message)]⟩

/-! ## Failures and notes -/

/-- **What is noted.**  A success notes nothing.  Bytes that are refused are noted once at the
level debug, and if they are shown in a message, once more as a warning.  A text is noted once at
the level debug if it is refused for its lead; if it is refused for what follows, it is a fault of
the address that nobody notes.  Each note is written as one record where debug is let through,
unless an integer in its fields or in the context has too many digits to be written. -/
theorem failures_noted (c : Convention) :
    (∀ data,
      (∀ a, (c.decodeBytes data).outcome = .ok a → (c.decodeBytes data).events = []) ∧
      (∀ failure, (c.decodeBytes data).outcome = .error failure →
        ∃ note, (c.decodeBytes data).events = [note] ∧
          NotesDenom Level.debug (Hex.encode data) note)) ∧
    (∀ s,
      (∀ d, (c.decodeText s).outcome = .ok d → (c.decodeText s).events = []) ∧
      (∀ failure, (c.decodeText s).outcome = .error failure →
        (¬ c.lead <+: s ∧ failure = c.textMismatch s ∧
          ∃ note, (c.decodeText s).events = [note] ∧ NotesDenom Level.debug s note) ∨
        (c.lead <+: s ∧ failure.isAddressFault = true ∧ (c.decodeText s).events = []))) ∧
    (∀ data, let d : Denomination := ⟨data, c⟩
      (∀ a, d.contract.outcome = .ok a → d.display.events = []) ∧
      (∀ failure, d.contract.outcome = .error failure →
        d.display.outcome = .ok (Denomination.fallback data failure) ∧
        ∃ note warning, d.contract.events = [note] ∧ d.display.events = [note, warning] ∧
          NotesDenom Level.debug (Hex.encode data) note ∧
          NotesDenom Level.warning (Hex.encode data) warning)) ∧
    (∀ data, (c.decodeBytes data).IsRecorded ∧ (⟨data, c⟩ : Denomination).display.IsRecorded) ∧
    (∀ s, (c.decodeText s).IsRecorded) := by
  refine ⟨fun data => ⟨fun a => events_decodeBytes_of_ok, fun failure =>
      events_decodeBytes_of_error⟩, fun s => ⟨fun d read => ?silent, fun failure refused => ?text⟩,
    fun data => ⟨fun a => events_display_of_ok, fun failure refused => ?display⟩,
    fun data => ⟨recorded_of_notes (notes_decodeBytes c data),
      recorded_of_notes (notes_display (.denom ⟨data, c⟩))⟩,
    fun s => recorded_of_notes (notes_decodeText c s)⟩
  case silent =>
    obtain ⟨t, a, rfl, -, -⟩ := decodeText_eq_ok_iff.mp read
    exact events_decodeText_append c t
  case text =>
    rcases decodeText_eq_error_iff.mp refused with ⟨starts, same⟩ | ⟨t, rfl, -, rfl⟩
    · exact .inl ⟨starts, same, events_decodeText_of_no_lead starts⟩
    · exact .inr ⟨List.prefix_append _ t, isAddressFault_refusal t, events_decodeText_append c t⟩
  case display =>
    obtain ⟨note, noted, about⟩ := events_decodeBytes_of_error refused
    obtain ⟨warning, shown, warns⟩ := events_display_of_error refused
    have noted : (⟨data, c⟩ : Denomination).contract.events = [note] := noted
    rw [noted] at shown
    exact ⟨display_of_contract_error refused, note, warning, noted, shown, about, warns⟩

end

/-- A lead with nothing behind it is refused, and so is one with too few digits behind it; neither
is noted. -/
theorem suffix_not_noted :
    (Convention.default.decodeText "peggy".toList).outcome = .error (.fault .emptyAddress) ∧
    (Convention.default.decodeText "peggy".toList).events = [] ∧
    (Convention.default.decodeText "peggy0x12".toList).outcome
      = .error (.fault (.malformedAddress (.text "0x12".toList) "0x12".toList)) ∧
    (Convention.default.decodeText "peggy0x12".toList).events = [] :=
  ⟨rfl, rfl, rfl, rfl⟩

end Convention

end BridgedDenom
