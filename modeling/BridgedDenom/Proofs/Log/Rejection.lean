import BridgedDenom.Proofs.Log.Runs

/-!
# Rejected configurations

A configuration whose level has no known name fails, and it leaves the level and the bound fields
as they were (`step_of_asksLevel`).  Its handler stays, since handlers are replaced before the
level is looked up.  So the records that follow are written as after a configuration with the same
format and stream that keeps the level.

How long this lasts can be told from the calls around it.  Handlers matter for handlers only
(`step_withHandlers`), so over a whole run the latest call that puts one in place decides, be it
accepted or not (`after_withHandlers`).  A rejected configuration makes no difference if and only
if the latest one before it had put the same handler in place, or another one comes later
(`rejected_exact`).  Where neither is the case, a record may come out in another format
(`rejection_changes_format`).
-/

namespace BridgedDenom

namespace Call

/-- The handler that the call puts in place of all others, if it is a configuration that has a
format. -/
def handler? : Call → Option Handler
  | configure format _ stream => some ⟨some format, stream⟩
  | setUp around _ format stream =>
      (Root.chosenFormat around format).toOption.map fun format => ⟨some format, stream⟩
  | _ => none

/-- The call asks for the level that a text names, by itself or through the environment.  There
an empty text counts as none. -/
inductive AsksLevel (s : Text) : Call → Prop where
  | configure {format : Format} {stream : Stream} : AsksLevel s (.configure format (.text s) stream)
  | setUp {around : Surroundings} {format : Text} {stream : Stream} :
      AsksLevel s (.setUp around (.text s) (.text format) stream)
  | environment {around : Surroundings} {format : Text} {stream : Stream}
      (named : around.environment? Root.levelVariable = some s) (given : s ≠ []) :
      AsksLevel s (.setUp around .null (.text format) stream)

end Call

/-- The handler that the latest configuration of a run put in place. -/
def latestHandler? (calls : List Call) : Option Handler := (calls.filterMap Call.handler?).getLast?

theorem latestHandler?_eq_none_iff {calls : List Call} :
    latestHandler? calls = none ↔ ∀ call ∈ calls, call.handler? = none := by
  rw [latestHandler?, List.getLast?_eq_none_iff, List.filterMap_eq_nil_iff]

theorem latestHandler?_append (calls : List Call) (call : Call) :
    latestHandler? (calls ++ [call]) = call.handler?.or (latestHandler? calls) := by
  cases sets : call.handler? with
  | none => simp [latestHandler?, sets]
  | some h => simp [latestHandler?, sets]

/-- A setting in which the handler stands. -/
def Setting.handler (s : Setting) : Handler := ⟨some s.format, s.stream⟩

namespace Root

section
variable {root : Root} {call : Call} {s : Text} {h : Handler}

/-! ## Handlers of a run -/

/-- Handlers in place of others make no other difference than that. -/
def withHandlers (root : Root) (handlers : List Handler) : Root :=
  { root with handlers := handlers }

theorem step_withHandlers (root : Root) (handlers : List Handler) (call : Call) :
    ((root.withHandlers handlers).step call).1
      = (root.step call).1.withHandlers ((call.handler?.map fun h => [h]).getD handlers) := by
  cases call with
  | configure format level stream =>
      cases named : levelOfValue level <;>
        simp [step, configure, withHandlers, named, Call.handler?]
  | setUp around level format stream =>
      cases chosen : chosenFormat around format with
      | error failure => simp [step, setUp, withHandlers, chosen, Call.handler?, Except.toOption]
      | ok format =>
          cases named : levelOfValue (chosenLevel around level) <;>
            simp [step, setUp, configure, withHandlers, chosen, named, Call.handler?,
              Except.toOption]
  | bind | clear | log => rfl

/-- Of a run, the latest configuration decides what becomes of the handlers. -/
theorem after_withHandlers (root : Root) (handlers : List Handler) (calls : List Call) :
    (root.withHandlers handlers).after calls
      = (root.after calls).withHandlers
          (((latestHandler? calls).map fun h => [h]).getD handlers) := by
  induction calls using List.reverseRecOn with
  | nil => rfl
  | append_singleton calls call ih =>
      rw [after_append, ih, step_withHandlers, after_append, latestHandler?_append]
      cases call.handler? <;> rfl

theorem handlers_after (root : Root) (calls : List Call) :
    (root.after calls).handlers = ((latestHandler? calls).map fun h => [h]).getD root.handlers :=
  congrArg Root.handlers (after_withHandlers root root.handlers calls)

/-- Other handlers are forgotten when new ones are put in place, and not before. -/
theorem after_withHandlers_eq_iff {handlers : List Handler} {calls : List Call} :
    (root.withHandlers handlers).after calls = root.after calls ↔
      handlers = root.handlers ∨ ∃ call ∈ calls, call.handler?.isSome = true := by
  cases latest : latestHandler? calls with
  | none =>
      have none : ¬ ∃ call ∈ calls, call.handler?.isSome = true := by
        rintro ⟨call, mem, sets⟩
        rw [latestHandler?_eq_none_iff.mp latest call mem] at sets
        cases sets
      rw [after_withHandlers, latest, or_iff_left none]
      have kept : (root.after calls).handlers = root.handlers := by
        rw [handlers_after, latest]
        rfl
      constructor
      · intro same
        rw [← kept, ← same]
        rfl
      · rintro rfl
        rw [← kept]
        rfl
  | some h =>
      have some : ∃ call ∈ calls, call.handler?.isSome = true := by
        by_contra none
        rw [latestHandler?_eq_none_iff.mpr fun call mem =>
          Option.not_isSome_iff_eq_none.mp fun sets => none ⟨call, mem, sets⟩] at latest
        cases latest
      refine iff_of_true ?_ (.inr some)
      rw [after_withHandlers, latest]
      have kept : (root.after calls).handlers = [h] := by
        rw [handlers_after, latest]
        rfl
      rw [Option.map_some, Option.getD_some, ← kept]
      rfl

/-! ## Rejection -/

/-- What is left of a rejected configuration is its handler. -/
theorem step_of_asksLevel (root : Root) (asks : call.AsksLevel s)
    (unknown : Level.ofText? s = none) :
    ∃ set : Setting, set.level = root.level ∧ call.handler? = some set.handler ∧
      root.step call = (root.withHandlers [set.handler], .error (.unknownLevel s.quoted)) := by
  have refused : levelOfValue (.text s) = .error (.unknownLevel s.quoted) := by
    rw [levelOfValue, unknown]
    rfl
  have step_setUp {around : Surroundings} {level : Value} {format : Text} {stream : Stream}
      (asked : chosenLevel around level = .text s) :
      ∃ set : Setting, set.level = root.level ∧
        (Call.setUp around level (.text format) stream).handler? = some set.handler ∧
        root.step (.setUp around level (.text format) stream)
          = (root.withHandlers [set.handler], .error (.unknownLevel s.quoted)) := by
    obtain ⟨chosen, formatChosen⟩ := exists_chosenFormat around format
    refine ⟨⟨chosen, root.level, stream⟩, rfl, ?_, ?_⟩
    · rw [Call.handler?, formatChosen]
      rfl
    · simp only [step, setUp, formatChosen, asked, configure, refused]
      rfl
  cases asks with
  | @configure format stream =>
      refine ⟨⟨format, root.level, stream⟩, rfl, rfl, ?_⟩
      simp only [step, configure, refused]
      rfl
  | setUp => exact step_setUp rfl
  | @environment around format stream named given =>
      refine step_setUp ?_
      have filled : List.isEmpty s = false := List.isEmpty_eq_false_iff.mpr given
      simp [chosenLevel, named, filled]

/-- One event under a setting, if it is let through. -/
theorem log_of_setting {set : Setting} {event : Event} (one : root.handlers = [set.handler])
    (least : root.level = set.level) (positive : 0 < event.level)
    (above : set.level ≤ event.level) (free : ∀ field ∈ event.fields, field.1 ∉ Record.ownNames)
    (moment : Moment) :
    root.log moment event = .ok (set.noted root.bound moment event
      ++ ((event.message .usual).outcome.toOption.bind
          (set.own? root.bound moment event)).toList) := by
  have through : root.lets event.level = true := by simp [lets, positive, least, above]
  rw [log_of_lets free through, write_of_lets one through, flatMap_ownLines_message one least]

/-- **Rejected configurations.**  After any run, a configuration for a level without a known name
fails as a bad value that quotes the name, and it leaves the level and the bound fields alone.
But it puts its handler in place: an event that is let through by the level of before is written
in the format and to the stream of the rejected configuration.

So a later state, and all that is written there, is the same as without the rejected configuration
if and only if the latest configuration before it had put the same handler in place, accepted or
not, or there is another one in between. -/
theorem rejected_exact (asks : call.AsksLevel s) (unknown : Level.ofText? s = none)
    (before : List Call) :
    let root := start.after before
    let left := (root.step call).1
    let failure := Failure.unknownLevel s.quoted
    (root.step call).2 = .error failure ∧ failure.isRejection = true ∧
      failure.message = "unknown log level: ".toList ++ s.quoted ∧
    left.level = root.level ∧ left.bound = root.bound ∧
    ∃ set : Setting, call.handler? = some set.handler ∧ left.handlers = [set.handler] ∧
      set.level = root.level ∧
      (∀ moment event, 0 < event.level → root.level ≤ event.level →
        (∀ field ∈ event.fields, field.1 ∉ Record.ownNames) →
        left.log moment event = .ok (set.noted root.bound moment event
          ++ ((event.message .usual).outcome.toOption.bind
              (set.own? root.bound moment event)).toList)) ∧
      (∀ later, start.after (before ++ call :: later) = start.after (before ++ later) ↔
        latestHandler? before = some set.handler ∨
          ∃ call ∈ later, call.handler?.isSome = true) := by
  intro root left failure
  obtain ⟨set, least, sets, stepped⟩ := step_of_asksLevel root asks unknown
  have left_eq : left = root.withHandlers [set.handler] := congrArg Prod.fst stepped
  refine ⟨congrArg Prod.snd stepped, rfl, rfl, ?_, ?_, set, sets, ?_, least,
    fun moment event positive above free => ?written, fun later => ?later⟩
  · rw [left_eq]; rfl
  · rw [left_eq]; rfl
  · rw [left_eq]; rfl
  case written =>
    have one : left.handlers = [set.handler] := left_eq ▸ rfl
    have same : left.level = set.level ∧ left.bound = root.bound := by
      rw [left_eq]
      exact ⟨least.symm, rfl⟩
    rw [← same.2]
    exact log_of_setting one same.1 positive (least ▸ above) free moment
  case later =>
    have skipped : start.after (before ++ later) = root.after later := List.foldl_append
    have made : start.after (before ++ call :: later) = left.after later := List.foldl_append
    rw [skipped, made, left_eq, after_withHandlers_eq_iff, handlers_after]
    refine or_congr_left ?_
    cases latestHandler? before with
    | none => exact iff_of_false nofun nofun
    | some h => simp [eq_comm]

end

/-! ## A level without a name -/

/-- A run that writes text. -/
def plain : List Call := [.configure .text (.text "INFO".toList) errorStream]

/-- A configuration that asks for JSON and for a level without a known name. -/
def loud : Call := .configure .json (.text "LOUD".toList) errorStream

theorem rejected_exact_loud :
    ((start.after plain).step loud).2 = .error (.unknownLevel "'LOUD'".toList) ∧
    ((start.after plain).step loud).1.level = Level.info ∧
    ((start.after plain).step loud).1.handlers = [⟨some .json, errorStream⟩] ∧
    start.after (plain ++ [loud, .clear]) ≠ start.after (plain ++ [.clear]) := by
  have asks : loud.AsksLevel "LOUD".toList := .configure
  have unknown : Level.ofText? "LOUD".toList = none := rfl
  obtain ⟨failed, -, -, level, -, set, sets, handlers, -, -, differs⟩ :=
    rejected_exact asks unknown plain
  have quoted : Text.quoted "LOUD".toList = "'LOUD'".toList := by decide +kernel
  have given : set.handler = ⟨some .json, errorStream⟩ := (Option.some.inj sets).symm
  refine ⟨quoted ▸ failed, level, given ▸ handlers, mt (differs [.clear]).mp ?_⟩
  rw [given]
  decide

/-- After a rejected configuration the next event is written in another format than without it,
and so it is if the rejected level is that of the environment. -/
theorem rejection_changes_format :
    let event : Event := ⟨Level.info, "peggy".toList, "hello".toList, [], []⟩
    let around : Surroundings :=
      ⟨fun name => [(levelVariable, "LOUD".toList), (formatVariable, "json".toList)].lookup name,
        fun _ => .nothing⟩
    let written (calls : List Call) := ((start.after calls).log .start event).toOption
    let text : Written :=
      ⟨errorStream, "1970-01-01T00:00:00.000+00:00 INFO peggy: hello\n".toList⟩
    Level.ofText? "LOUD".toList = none ∧ written plain = some [text] ∧
      written (plain ++ [loud]) ≠ some [text] ∧
      written (plain ++ [.setUp around .null (.text "text".toList) errorStream]) ≠ some [text] :=
  ⟨rfl, by decide +kernel, by decide +kernel, by decide +kernel⟩

end Root

end BridgedDenom
