import BridgedDenom.Log.Record
import BridgedDenom.Proofs.Denomination.Storage

/-!
# What making a message notes

The arguments of an event are shown in its message, and showing a denomination that names no
contract is itself worth a note.  Such a note has no arguments, so it makes no further ones
(`notes_display`).  Whatever holds of the notes of all arguments holds of the notes of the
message (`notes_message`), so a message notes nothing if every denomination among its
arguments can be read.
-/

namespace BridgedDenom

/-! ## What a computation notes -/

namespace Attempt

/-- Everything the computation notes is of a kind. -/
def Notes {α : Type} (kind : Event → Prop) (x : Attempt α) : Prop := ∀ event ∈ x.events, kind event

section
variable {α β : Type} {kind : Event → Prop} {x : Attempt α}

theorem Notes.of_events_nil (silent : x.events = []) : Notes kind x := by
  intro event mem
  rw [silent] at mem
  cases mem

theorem Notes.bind {f : α → Attempt β} (first : Notes kind x)
    (next : ∀ a, x.outcome = .ok a → Notes kind (f a)) : Notes kind (x >>= f) := by
  intro event mem
  cases outcome : x.outcome with
  | ok a =>
      rw [events_bind_ok outcome] at mem
      rcases List.mem_append.mp mem with before | after
      · exact first event before
      · exact next a outcome event after
  | error failure =>
      rw [events_bind_error outcome] at mem
      exact first event mem

theorem events_tryCatch_ok {a : α} (h : x.outcome = .ok a) (handler : Failure → Attempt α) :
    (tryCatch x handler).events = x.events := by
  simp only [outcome, events, tryCatch, tryCatchThe, MonadExceptOf.tryCatch, ExceptT.tryCatch,
    ExceptT.run, ExceptT.mk, Logged.events_bind] at h ⊢
  rw [h]
  exact List.append_nil _

theorem events_tryCatch_error {failure : Failure} (h : x.outcome = .error failure)
    (handler : Failure → Attempt α) :
    (tryCatch x handler).events = x.events ++ (handler failure).events := by
  simp only [outcome, events, tryCatch, tryCatchThe, MonadExceptOf.tryCatch, ExceptT.tryCatch,
    ExceptT.run, ExceptT.mk, Logged.events_bind] at h ⊢
  rw [h]

theorem Notes.tryCatch {handler : Failure → Attempt α} (first : Notes kind x)
    (next : ∀ failure, Notes kind (handler failure)) : Notes kind (tryCatch x handler) := by
  intro event mem
  cases outcome : x.outcome with
  | ok a =>
      rw [events_tryCatch_ok outcome] at mem
      exact first event mem
  | error failure =>
      rw [events_tryCatch_error outcome] at mem
      rcases List.mem_append.mp mem with before | after
      · exact first event before
      · exact next failure event after

theorem Notes.events_nil (silent : Notes (fun _ => False) x) : x.events = [] :=
  List.eq_nil_iff_forall_not_mem.mpr silent

end

end Attempt

open Attempt (Notes)

/-- An event on the way to a message: it has no arguments, so it makes none itself. -/
def IsNote (event : Event) : Prop :=
  event.arguments = [] ∧ (event.level = Level.debug ∨ event.level = Level.warning)

theorem IsNote.debug_le {event : Event} (note : IsNote event) : Level.debug ≤ event.level := by
  rcases note.2 with debug | warning
  · exact Int.le_of_eq debug.symm
  · rw [warning]
    decide

/-- The value is not a denomination without a contract. -/
def IsReadable (v : Value) : Prop := ∀ d, v = .denom d → ∃ a, d.contract.outcome = .ok a

section
variable {kind : Event → Prop}

theorem notes_decodeBytes (c : Convention) (data : Bytes) : Notes IsNote (c.decodeBytes data) := by
  simp only [Convention.decodeBytes]
  split
  · split
    · exact .of_events_nil rfl
    · intro event mem
      rw [Attempt.events_refuse, List.mem_singleton] at mem
      exact ⟨by rw [mem], .inl (by rw [mem])⟩
  · intro event mem
    rw [Attempt.events_refuse, List.mem_singleton] at mem
    exact ⟨by rw [mem], .inl (by rw [mem])⟩

theorem notes_display (v : Value) : Notes IsNote v.display := by
  cases v with
  | denom d =>
      refine Notes.tryCatch ((notes_decodeBytes _ _).bind fun _ _ => .of_events_nil rfl) ?_
      intro failure
      dsimp only
      split
      · intro event mem
        have same := List.mem_singleton.mp mem
        exact ⟨by rw [same], .inr (by rw [same])⟩
      · exact .of_events_nil rfl
  | _ => exact .of_events_nil rfl

theorem notes_display_of_isReadable {v : Value} (readable : IsReadable v) :
    Notes kind v.display := by
  cases v with
  | denom d =>
      obtain ⟨a, read⟩ := readable d rfl
      have shown : (do return d.convention.denomText (← d.contract) : Attempt Text).outcome
          = .ok (d.convention.denomText a) := Attempt.outcome_bind_ok read _
      refine .of_events_nil ?_
      refine (Attempt.events_tryCatch_ok shown _).trans ?_
      rw [Attempt.events_bind_ok read, Denomination.contract,
        Convention.decodeBytes_eq_ok_iff.mp read, Convention.events_decodeBytes_encode]
      rfl
  | _ => exact .of_events_nil rfl

theorem notes_displayWithin {v : Value} (shown : Notes kind v.display) (limit : DigitLimit) :
    Notes kind (v.displayWithin limit) := by
  unfold Value.displayWithin
  split
  · exact shown
  · exact .of_events_nil rfl

end

/-! ## Arguments -/

namespace Template

namespace Supply

/-- The values that may be taken. -/
def values : Supply → List Value
  | .items left => left
  | .mapping entries current => entries.map Prod.snd ++ current.toList

section
variable {supply left : Supply} {v : Value} {key : Key} {limit : Nat} {width : Size}
  {n : Option Int}

theorem values_next (taken : supply.next = .ok (v, left)) :
    v ∈ supply.values ∧ left.values ⊆ supply.values := by
  match supply, taken with
  | .items (_ :: _), rfl => exact ⟨List.mem_cons_self, List.subset_cons_self _ _⟩
  | .mapping entries (some _), rfl =>
      refine ⟨List.mem_append_right _ (List.mem_singleton_self _), ?_⟩
      exact List.append_subset.mpr ⟨List.subset_append_left _ _, List.nil_subset _⟩

theorem mem_values_of_get? {entries : Fields} {name : Text} (found : entries.get? name = some v) :
    v ∈ entries.map Prod.snd := by
  obtain ⟨before, after, rfl, -⟩ := List.lookup_eq_some_iff.mp found
  exact List.mem_map_of_mem (List.mem_append_right before List.mem_cons_self)

theorem values_find (found : supply.find key = .ok left) : left.values ⊆ supply.values := by
  match key, supply, found with
  | .next, _, rfl => exact List.Subset.refl _
  | .named name, .mapping entries current, found =>
      cases entry : entries.get? name with
      | none =>
          simp only [find, entry] at found
          cases found
      | some v =>
          simp only [find, entry] at found
          cases found
          refine List.append_subset.mpr ⟨List.subset_append_left _ _, ?_⟩
          intro w mem
          obtain rfl : w = v := by simpa using mem
          exact List.mem_append_left _ (mem_values_of_get? entry)

theorem values_size (sized : supply.size limit width = .ok (n, left)) :
    left.values ⊆ supply.values := by
  cases width with
  | none =>
      cases sized
      exact List.Subset.refl _
  | given m =>
      rw [size] at sized
      split at sized
      · cases sized
        exact List.Subset.refl _
      · cases sized
  | asked =>
      obtain ⟨⟨v, rest⟩, taken, sized⟩ := bind_eq_ok_iff.mp sized
      obtain ⟨m, -, sized⟩ := bind_eq_ok_iff.mp sized
      split at sized
      · cases sized
        exact (values_next taken).2
      · cases sized

end

end Supply

section
variable {kind : Event → Prop} {limit : DigitLimit} {pieces : List Piece} {supply left : Supply}
  {d : Directive} {taken : Taken} {v : Value}

/-- A directive takes one of the values, and what is left is among them. -/
theorem values_take (takes : d.take supply = .ok taken) :
    taken.value ∈ supply.values ∧ taken.left.values ⊆ supply.values := by
  obtain ⟨found, isFound, takes⟩ := bind_eq_ok_iff.mp takes
  obtain ⟨⟨width, behind⟩, isWidth, takes⟩ := bind_eq_ok_iff.mp takes
  obtain ⟨⟨precision, last⟩, isPrecision, takes⟩ := bind_eq_ok_iff.mp takes
  have kept : last.values ⊆ supply.values := fun v mem =>
    Supply.values_find isFound (Supply.values_size isWidth (Supply.values_size isPrecision mem))
  cases letter : d.letter with
  | none =>
      rw [letter] at takes
      cases takes
  | some c =>
      simp only [letter] at takes
      obtain ⟨⟨value, rest⟩, next, takes⟩ := bind_eq_ok_iff.mp takes
      obtain ⟨mem, less⟩ := Supply.values_next next
      cases conversion : Conversion.letters.lookup c with
      | none =>
          simp only [conversion] at takes
          cases takes
      | some _ =>
          simp only [conversion] at takes
          cases takes
          exact ⟨kept mem, fun v mem => kept (less mem)⟩

/-! ## Filling -/

theorem notes_conversionFill (shown : Notes kind v.display) (conversion : Conversion)
    (frame : Frame) : Notes kind (conversion.fill limit frame v) := by
  cases conversion with
  | display => exact (notes_displayWithin shown limit).bind fun _ _ => .of_events_nil rfl
  | _ => exact .of_events_nil rfl

/-- What filling the pieces notes is noted where values are shown.  The induction is on the
pieces; the values that are left are among those of before. -/
theorem notes_fill (shown : ∀ v ∈ supply.values, Notes kind v.display) (pieces : List Piece) :
    Notes kind (fill limit pieces supply) := by
  induction pieces generalizing supply with
  | nil => exact .of_events_nil rfl
  | cons piece rest ih =>
      cases piece with
      | char c =>
          refine Notes.bind (.of_events_nil rfl) fun ⟨s, left⟩ filled => ?_
          cases filled
          exact (ih shown).bind fun _ _ => .of_events_nil rfl
      | directive d =>
          refine Notes.bind ?_ fun ⟨s, left⟩ filled => ?_
          · refine Notes.bind (.of_events_nil rfl) fun taken takes => ?_
            refine (notes_conversionFill (shown _ (values_take takes).1) _ _).bind fun _ _ => ?_
            exact .of_events_nil rfl
          · obtain ⟨taken, takes, filled⟩ := Attempt.outcome_bind_eq_ok_iff.mp filled
            obtain ⟨filling, -, filled⟩ := Attempt.outcome_bind_eq_ok_iff.mp filled
            cases filled
            have kept : ∀ v ∈ taken.left.values, Notes kind v.display := fun v mem =>
              shown v ((values_take takes).2 mem)
            exact (ih kept).bind fun _ _ => .of_events_nil rfl

end

end Template

theorem notes_message {kind : Event → Prop} {limit : DigitLimit} {event : Event}
    (shown : ∀ v ∈ event.supply.values, Notes kind v.display) :
    Notes kind (event.message limit) := by
  unfold Event.message
  split
  · exact .of_events_nil rfl
  · refine (Template.notes_fill shown _).bind fun filled _ => ?_
    dsimp only
    split <;> exact .of_events_nil rfl

end BridgedDenom
