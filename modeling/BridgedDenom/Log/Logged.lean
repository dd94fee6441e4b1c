import BridgedDenom.Failure
import BridgedDenom.Log.Level

/-!
# Events

Some computations report events for the log.  They do not know whether anyone
listens: an event is only noted, and whoever runs the computation decides what to
write.  `Logged α` is a result together with the events noted on the way to it, in
order, and `Attempt α` is a `Logged` result that may be a failure; what was noted
before a failure stays noted.
-/

namespace BridgedDenom

/-- Something worth a log record. -/
structure Event where
  level : Level
  logger : Text
  /-- The message, with places for the arguments. -/
  template : Text
  arguments : List Value
  /-- Further fields of the record. -/
  fields : Fields

/-- A result with the events noted on the way to it. -/
structure Logged (α : Type) where
  value : α
  /-- The events, earliest first. -/
  events : List Event

namespace Logged

instance : Monad Logged where
  pure a := ⟨a, []⟩
  bind x f := ⟨(f x.value).value, x.events ++ (f x.value).events⟩

def note (event : Event) : Logged Unit := ⟨(), [event]⟩

@[simp] theorem value_pure {α : Type} (a : α) : (pure a : Logged α).value = a := rfl

@[simp] theorem events_pure {α : Type} (a : α) : (pure a : Logged α).events = [] := rfl

@[simp] theorem value_bind {α β : Type} (x : Logged α) (f : α → Logged β) :
    (x >>= f).value = (f x.value).value := rfl

@[simp] theorem events_bind {α β : Type} (x : Logged α) (f : α → Logged β) :
    (x >>= f).events = x.events ++ (f x.value).events := rfl

@[simp] theorem events_note (event : Event) : (note event).events = [event] := rfl

instance : LawfulMonad Logged := LawfulMonad.mk' Logged
  (fun x => by simp [Functor.map])
  (fun _ _ => by simp [bind, pure])
  (fun x f g => by simp [bind, List.append_assoc])

end Logged

/-- A result that may be a failure, with the events noted on the way to it. -/
abbrev Attempt (α : Type) : Type := ExceptT Failure Logged α

namespace Attempt

/-- A result that notes nothing. -/
def ofExcept {α : Type} (x : Except Failure α) : Attempt α := ExceptT.mk (pure x)

def note (event : Event) : Attempt Unit := ExceptT.lift (Logged.note event)

def refuse {α : Type} (event : Event) (failure : Failure) : Attempt α :=
  ExceptT.mk ⟨.error failure, [event]⟩

def outcome {α : Type} (x : Attempt α) : Except Failure α := x.run.value

def events {α : Type} (x : Attempt α) : List Event := x.run.events

@[simp] theorem outcome_ofExcept {α : Type} (x : Except Failure α) :
    (ofExcept x).outcome = x := rfl

@[simp] theorem events_ofExcept {α : Type} (x : Except Failure α) :
    (ofExcept x).events = [] := rfl

@[simp] theorem outcome_pure {α : Type} (a : α) : (pure a : Attempt α).outcome = .ok a := rfl

@[simp] theorem events_pure {α : Type} (a : α) : (pure a : Attempt α).events = [] := rfl

@[simp] theorem outcome_refuse {α : Type} (event : Event) (failure : Failure) :
    (refuse event failure : Attempt α).outcome = .error failure := rfl

@[simp] theorem events_refuse {α : Type} (event : Event) (failure : Failure) :
    (refuse event failure : Attempt α).events = [event] := rfl

@[simp] theorem outcome_throw {α : Type} (failure : Failure) :
    (throw failure : Attempt α).outcome = .error failure := rfl

theorem outcome_bind_ok {α β : Type} {x : Attempt α} {a : α} (h : x.outcome = .ok a)
    (f : α → Attempt β) : (x >>= f).outcome = (f a).outcome := by
  simp only [outcome, ExceptT.run_bind, Logged.value_bind] at h ⊢
  rw [h]

/-- A step after a failure is not taken. -/
theorem outcome_bind_error {α β : Type} {x : Attempt α} {failure : Failure}
    (h : x.outcome = .error failure) (f : α → Attempt β) :
    (x >>= f).outcome = .error failure := by
  simp only [outcome, ExceptT.run_bind, Logged.value_bind] at h ⊢
  rw [h]
  rfl

theorem outcome_bind_eq_ok_iff {α β : Type} {x : Attempt α} {f : α → Attempt β} {b : β} :
    (x >>= f).outcome = .ok b ↔ ∃ a, x.outcome = .ok a ∧ (f a).outcome = .ok b := by
  cases h : x.outcome with
  | ok a => simp [outcome_bind_ok h]
  | error failure => simp [outcome_bind_error h]

theorem outcome_bind_eq_error_iff {α β : Type} {x : Attempt α} {f : α → Attempt β}
    {failure : Failure} : (x >>= f).outcome = .error failure ↔
      x.outcome = .error failure ∨ ∃ a, x.outcome = .ok a ∧ (f a).outcome = .error failure := by
  cases h : x.outcome with
  | ok a => simp [outcome_bind_ok h]
  | error cause => simp [outcome_bind_error h]

theorem events_bind_ok {α β : Type} {x : Attempt α} {a : α} (h : x.outcome = .ok a)
    (f : α → Attempt β) : (x >>= f).events = x.events ++ (f a).events := by
  simp only [outcome, events, ExceptT.run_bind, Logged.events_bind] at h ⊢
  rw [h]

theorem events_bind_error {α β : Type} {x : Attempt α} {failure : Failure}
    (h : x.outcome = .error failure) (f : α → Attempt β) : (x >>= f).events = x.events := by
  simp only [outcome, events, ExceptT.run_bind, Logged.events_bind] at h ⊢
  rw [h]
  simp

theorem outcome_tryCatch_ok {α : Type} {x : Attempt α} {a : α} (h : x.outcome = .ok a)
    (handler : Failure → Attempt α) : (tryCatch x handler).outcome = .ok a := by
  simp only [outcome, tryCatch, tryCatchThe, MonadExceptOf.tryCatch, ExceptT.tryCatch,
    ExceptT.run, ExceptT.mk, Logged.value_bind] at h ⊢
  rw [h]
  rfl

theorem outcome_tryCatch_error {α : Type} {x : Attempt α} {failure : Failure}
    (h : x.outcome = .error failure) (handler : Failure → Attempt α) :
    (tryCatch x handler).outcome = (handler failure).outcome := by
  simp only [outcome, tryCatch, tryCatchThe, MonadExceptOf.tryCatch, ExceptT.tryCatch,
    ExceptT.run, ExceptT.mk, Logged.value_bind] at h ⊢
  rw [h]

end Attempt

end BridgedDenom
