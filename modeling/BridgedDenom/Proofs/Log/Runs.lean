import BridgedDenom.Proofs.Log.Message
import BridgedDenom.Proofs.Log.SetUp
import BridgedDenom.Proofs.Value.Fields
import Mathlib.Data.List.Basic

/-!
# Runs of the log

A run is a list of calls.  Some bind fields to the context or clear it, some configure the
log, and some log an event.  What a run leaves behind can be told from its calls alone: one
handler with the format and the stream of the latest configuration, its level
(`after_configured`), and the fields bound since the context was last cleared
(`bound_after`).  Each is proved for one more call at the end of the run, by cases on the call,
and then for all runs by induction.

So an event that is logged is written once, however many configurations came before, and not
at all below the level of the latest one (`log_exact`).  A record is missing only where the
arguments of the event do not fit its template, or where an integer in the fields has too many
digits to be written (`fits_of_hasText`).  What making the message noted is written before it
in records of its own; if the denominations that the message may show can be read, there are
none of these.
-/

namespace BridgedDenom

/-! ## Calls -/

/-- A call that concerns the log. -/
inductive Call where
  | bind (fields : Fields)
  | clear
  | configure (format : Format) (level : Value) (stream : Stream)
  /-- A configuration in which the environment has a say. -/
  | setUp (around : Surroundings) (level format : Value) (stream : Stream)
  | log (moment : Moment) (event : Event)

/-- What a configuration sets. -/
structure Setting where
  format : Format
  level : Level
  stream : Stream

namespace Call

/-- What the call sets, if it is a configuration with a format and a recognised level. -/
def setting? : Call → Option Setting
  | configure format level stream => (Root.levelOfValue level).toOption.map (⟨format, ·, stream⟩)
  | setUp around level format stream => do
      let format ← (Root.chosenFormat around format).toOption
      let level ← (Root.levelOfValue (Root.chosenLevel around level)).toOption
      some ⟨format, level, stream⟩
  | _ => none

/-- If the call is a configuration, its level is recognised. -/
def IsAccepted : Call → Prop
  | configure _ level _ => ∃ l, Root.levelOfValue level = .ok l
  | setUp around level _ _ => ∃ l, Root.levelOfValue (Root.chosenLevel around level) = .ok l
  | _ => True

def isClear : Call → Bool
  | clear => true
  | _ => false

/-- The fields that the call binds. -/
def fields : Call → Fields
  | bind fields => fields
  | _ => []

end Call

/-- The latest configuration of a run. -/
def latest? (calls : List Call) : Option Setting := (calls.filterMap Call.setting?).getLast?

/-- The fields bound since the context was last cleared, the earliest first. -/
def boundBy (calls : List Call) : Fields :=
  (calls.reverse.takeWhile fun call => !call.isClear).reverse.flatMap Call.fields

namespace Root

/-- One call: what it leaves behind, and what it writes unless it fails. -/
def step (root : Root) : Call → Root × Except Failure (List Written)
  | .bind fields => (root.bind fields, .ok [])
  | .clear => (root.clear, .ok [])
  | .configure format level stream =>
      let (root, done) := root.configure format level stream
      (root, done.map fun _ => [])
  | .setUp around level format stream =>
      let (root, done) := root.setUp around level format stream
      (root, done.map fun _ => [])
  | .log moment event => (root, root.log moment event)

/-- What a run leaves behind. -/
def after (root : Root) (calls : List Call) : Root :=
  calls.foldl (fun root call => (root.step call).1) root

section
variable {root : Root} {calls : List Call} {call : Call} {s : Setting}

@[simp] theorem after_append (root : Root) (calls : List Call) (call : Call) :
    root.after (calls ++ [call]) = ((root.after calls).step call).1 := by
  simp [after]

/-! ## The latest configuration -/

theorem step_of_setting (sets : call.setting? = some s) :
    (root.step call).1.handlers = [⟨some s.format, s.stream⟩] ∧
      (root.step call).1.level = s.level := by
  cases call with
  | configure format level stream =>
      cases named : levelOfValue level with
      | error failure =>
          simp only [Call.setting?, named] at sets
          cases sets
      | ok l =>
          simp only [Call.setting?, named] at sets
          cases sets
          simp only [step, configure, named, and_self]
  | setUp around level format stream =>
      cases chosen : chosenFormat around format with
      | error failure =>
          simp only [Call.setting?, chosen] at sets
          cases sets
      | ok format =>
          cases named : levelOfValue (chosenLevel around level) with
          | error failure =>
              simp only [Call.setting?, named, chosen] at sets
              cases sets
          | ok l =>
              simp only [Call.setting?, named, chosen] at sets
              cases sets
              simp only [step, setUp, configure, named, chosen, and_self]
  | bind | clear | log => cases sets

theorem step_of_no_setting (root : Root) (accepted : call.IsAccepted)
    (sets : call.setting? = none) :
    (root.step call).1.handlers = root.handlers ∧ (root.step call).1.level = root.level := by
  cases call with
  | configure format level stream =>
      obtain ⟨l, named⟩ := accepted
      simp only [Call.setting?, named] at sets
      cases sets
  | setUp around level format stream =>
      obtain ⟨l, named⟩ := accepted
      cases chosen : chosenFormat around format with
      | error failure => simp only [step, setUp, chosen, and_self]
      | ok format =>
          simp only [Call.setting?, named, chosen] at sets
          cases sets
  | bind | clear | log => exact ⟨rfl, rfl⟩

theorem latest?_append (calls : List Call) (call : Call) :
    latest? (calls ++ [call]) = call.setting?.or (latest? calls) := by
  cases sets : call.setting? with
  | none => simp [latest?, sets]
  | some s => simp [latest?, sets]

/-- A run leaves the handler and the level of its latest configuration. -/
theorem after_configured (root : Root) (accepted : ∀ call ∈ calls, call.IsAccepted)
    (latest : latest? calls = some s) :
    (root.after calls).handlers = [⟨some s.format, s.stream⟩] ∧
      (root.after calls).level = s.level := by
  induction calls using List.reverseRecOn with
  | nil => cases latest
  | append_singleton calls call ih =>
      rw [after_append]
      rw [latest?_append] at latest
      cases sets : call.setting? with
      | some own =>
          rw [sets, Option.some_or, Option.some.injEq] at latest
          exact latest ▸ step_of_setting sets
      | none =>
          rw [sets, Option.none_or] at latest
          have own : call.IsAccepted :=
            accepted call (List.mem_append_right calls List.mem_cons_self)
          obtain ⟨handlers, level⟩ := step_of_no_setting (root.after calls) own sets
          rw [handlers, level]
          exact ih (fun c mem => accepted c (List.mem_append_left _ mem)) latest

/-! ## Bound fields -/

theorem boundBy_append (calls : List Call) (call : Call) :
    boundBy (calls ++ [call]) = if call.isClear then [] else boundBy calls ++ call.fields := by
  cases clears : call.isClear with
  | true => simp [boundBy, clears]
  | false => simp [boundBy, clears]

theorem bound_configure (root : Root) (format : Format) (level : Value) (stream : Stream) :
    (root.configure format level stream).1.bound = root.bound := by
  simp only [configure]
  split <;> rfl

theorem bound_step (root : Root) (call : Call) :
    (root.step call).1.bound = if call.isClear then [] else root.bound.merge call.fields := by
  cases call with
  | configure format level stream => exact bound_configure root format level stream
  | setUp around level format stream =>
      simp only [step, setUp]
      split
      · exact bound_configure root _ _ stream
      · rfl
  | bind | clear | log => rfl

/-- A run leaves what was bound since the last clearing, later fields over earlier ones. -/
theorem bound_after (empty : root.bound = []) (calls : List Call) :
    (root.after calls).bound = Fields.merge [] (boundBy calls) := by
  induction calls using List.reverseRecOn with
  | nil => exact empty
  | append_singleton calls call ih =>
      rw [after_append, bound_step, ih, boundBy_append]
      split
      · rfl
      · rw [Fields.merge_append]

end

end Root

/-! ## Records -/

/-- A record with its message, in a format. -/
def Format.line (format : Format) (bound : Fields) (record : Record) (message : Text) : Text :=
  match format with
  | .text => record.line bound message
  | .json => (Json.object (record.entries bound message)).compact

/-- The record of an event with its message, as it is written under a setting. -/
def Setting.written (s : Setting) (bound : Fields) (moment : Moment) (event : Event)
    (message : Text) : Written :=
  ⟨s.stream, s.format.line bound ⟨moment, event, none⟩ message ++ ['\n']⟩

/-- The record of an event with its message, if its fields can be written. -/
def Setting.own? (s : Setting) (bound : Fields) (moment : Moment) (event : Event)
    (message : Text) : Option Written :=
  if Record.fits .usual s.format bound ⟨moment, event, none⟩
  then some (s.written bound moment event message) else none

/-- The records of what making the message of an event notes, if the level lets them
through. -/
def Setting.noted (s : Setting) (bound : Fields) (moment : Moment) (event : Event) :
    List Written :=
  ((event.message .usual).events.filter fun note => s.level ≤ note.level).filterMap fun note =>
    s.own? bound moment note note.template

namespace Record

section
variable {limit : DigitLimit} {bound : Fields} {record : Record} {line : Text → Text}
  {message : Text}

/-- Fields can be written if no integer in them, or in those that give way to them, has too many
digits. -/
theorem fits_of_hasText (format : Format)
    (short : ∀ field ∈ bound ++ record.event.fields, field.2.hasText limit = true) :
    record.fits limit format bound = true := by
  have rendered (v : Value) (written : v.hasText limit = true) : v.isRendered limit = true := by
    cases v with
    | int n => rfl
    | _ => exact written
  have own : ∀ field ∈ bound ++ record.extras, field.2.hasText limit = true := fun field mem =>
    short field ((List.Sublist.refl bound).append List.filter_sublist |>.subset mem)
  rw [fits, Bool.and_eq_true, List.all_eq_true, List.all_eq_true]
  refine ⟨fun field mem => rendered _ (own field mem), fun field mem => ?_⟩
  have kept := own field (List.mem_append.mpr (Fields.mem_merge mem))
  simp only [kept, Bool.or_true]

/-- It makes no difference whether the fields of the context have been merged. -/
theorem fits_merge_of_hasText (format : Format)
    (short : ∀ field ∈ bound ++ record.event.fields, field.2.hasText limit = true) :
    record.fits limit format (Fields.merge [] bound) = true := by
  refine fits_of_hasText format fun field mem => short field ?_
  refine List.mem_append.mpr ((List.mem_append.mp mem).imp_left fun merged => ?_)
  exact (Fields.mem_merge merged).resolve_left List.not_mem_nil

theorem events_lineWithin (limit : DigitLimit) (format : Format) (bound : Fields)
    (record : Record) (line : Text → Text) :
    (record.lineWithin limit format bound line).events = (record.event.message limit).events := by
  unfold lineWithin
  cases made : (record.event.message limit).outcome with
  | ok message =>
      rw [Attempt.events_bind_ok made]
      split <;> exact List.append_nil _
  | error failure => rw [Attempt.events_bind_error made]

theorem outcome_lineWithin_of_fits {format : Format}
    (made : (record.event.message limit).outcome = .ok message)
    (fits : record.fits limit format bound = true) :
    (record.lineWithin limit format bound line).outcome = .ok (line message) := by
  rw [lineWithin, Attempt.outcome_bind_ok made, if_pos fits]
  rfl

theorem outcome_lineWithin_of_not_fits {format : Format}
    (made : (record.event.message limit).outcome = .ok message)
    (fits : record.fits limit format bound = false) :
    (record.lineWithin limit format bound line).outcome = .error .badValue := by
  rw [lineWithin, Attempt.outcome_bind_ok made, fits]
  rfl

theorem outcome_lineWithin_of_error {format : Format} {failure : Failure}
    (unmade : (record.event.message limit).outcome = .error failure) :
    (record.lineWithin limit format bound line).outcome = .error failure :=
  Attempt.outcome_bind_error unmade _

end

theorem inFormat_of_no_cause (format : Format) (bound : Fields) (moment : Moment) (event : Event) :
    inFormat format bound ⟨moment, event, none⟩
      = lineWithin .usual format bound ⟨moment, event, none⟩
          (format.line bound ⟨moment, event, none⟩) := by
  cases format with
  | text => simp only [inFormat, text, List.append_nil]; rfl
  | json => rfl

theorem fields_merge (earlier : Fields) (record : Record)
    (free : ∀ field ∈ record.event.fields, field.1 ∉ ownNames) :
    record.fields (Fields.merge [] earlier)
      = Fields.merge [] (earlier ++ record.event.fields.filter fun (name, _) =>
          name.head? != some '_') := by
  have shown : record.extras
      = record.event.fields.filter fun (name, _) => name.head? != some '_' := by
    refine List.filter_congr fun field mem => ?_
    simp [isShown, free field mem]
  rw [fields, shown, Fields.merge_append]

end Record

theorem message_of_no_arguments {event : Event} (bare : event.arguments = [])
    (limit : DigitLimit) : event.message limit = pure event.template := by
  simp only [Event.message, bare, List.isEmpty_nil, if_true]

namespace Root

section
variable {root : Root} {s : Setting} {event : Event}

theorem events_handled (root : Root) (moment : Moment) (event : Event) (format : Format)
    (stream : Stream) :
    (root.handled moment event ⟨some format, stream⟩).2 = (event.message .usual).events := by
  simp only [handled, Record.inFormat_of_no_cause, Record.events_lineWithin]

/-- What is written for an event: its record, if its message can be made and its fields can be
written. -/
theorem written_handled (root : Root) (moment : Moment) (event : Event) (s : Setting) :
    (root.handled moment event ⟨some s.format, s.stream⟩).1.map
        (fun line => ⟨s.stream, line ++ ['\n']⟩)
      = (event.message .usual).outcome.toOption.bind (s.own? root.bound moment event) := by
  simp only [handled, Record.inFormat_of_no_cause]
  cases made : (event.message .usual).outcome with
  | error failure =>
      rw [Record.outcome_lineWithin_of_error made]
      rfl
  | ok message =>
      cases fits : Record.fits .usual s.format root.bound ⟨moment, event, none⟩ with
      | true =>
          rw [Record.outcome_lineWithin_of_fits made fits]
          simp only [Except.toOption, Option.bind_some, Setting.own?, fits, if_true]
          rfl
      | false =>
          rw [Record.outcome_lineWithin_of_not_fits made fits]
          simp only [Except.toOption, Option.bind_some, Setting.own?, fits]
          rfl

theorem ownLines_eq (one : root.handlers = [⟨some s.format, s.stream⟩]) (moment : Moment)
    (event : Event) :
    root.ownLines moment event = if root.lets event.level
      then ((event.message .usual).outcome.toOption.bind (s.own? root.bound moment event)).toList
      else [] := by
  rw [ownLines, one]
  congr 1
  simp only [List.filterMap_cons, List.filterMap_nil, written_handled]
  cases (event.message .usual).outcome.toOption.bind (s.own? root.bound moment event) <;> rfl

/-- A note has no arguments, so its template is its message. -/
theorem ownLines_notes (one : root.handlers = [⟨some s.format, s.stream⟩]) (moment : Moment)
    {notes : List Event} (bare : ∀ note ∈ notes, note.arguments = []) :
    notes.flatMap (root.ownLines moment)
      = (notes.filter fun note => root.lets note.level).filterMap fun note =>
          s.own? root.bound moment note note.template := by
  induction notes with
  | nil => rfl
  | cons note rest ih =>
      have made : (note.message .usual).outcome = .ok note.template := by
        rw [message_of_no_arguments (bare note List.mem_cons_self)]
        rfl
      rw [List.flatMap_cons, ih fun other mem => bare other (List.mem_cons_of_mem note mem),
        ownLines_eq one, made, Except.toOption, Option.bind_some]
      cases through : root.lets note.level with
      | true =>
          rw [List.filter_cons, through, if_pos rfl, if_pos rfl, List.filterMap_cons]
          cases s.own? root.bound moment note note.template <;> rfl
      | false => rw [List.filter_cons, through]; rfl

theorem write_of_lets (one : root.handlers = [⟨some s.format, s.stream⟩])
    (through : root.lets event.level = true) (moment : Moment) :
    root.write moment event = (event.message .usual).events.flatMap (root.ownLines moment)
      ++ ((event.message .usual).outcome.toOption.bind
        (s.own? root.bound moment event)).toList := by
  rw [write, if_pos through, ownLines_eq one, if_pos through]
  simp only [one, List.flatMap_cons, List.flatMap_nil, List.append_nil, events_handled]

/-- Making the message of a note notes nothing further, so each note is one record at most. -/
theorem writeAll_notes (one : root.handlers = [⟨some s.format, s.stream⟩]) (moment : Moment)
    {notes : List Event} (bare : ∀ note ∈ notes, note.arguments = []) :
    root.writeAll moment notes
      = (notes.filter fun note => root.lets note.level).filterMap fun note =>
          s.own? root.bound moment note note.template := by
  have own : ∀ note ∈ notes, root.write moment note = root.ownLines moment note := by
    intro note mem
    by_cases through : root.lets note.level = true
    · have silent : (note.message .usual).events = [] := by
        rw [message_of_no_arguments (bare note mem)]
        rfl
      rw [write_of_lets one through, silent, List.flatMap_nil, List.nil_append, ownLines_eq one,
        if_pos through]
    · rw [write, if_neg through, ownLines, if_neg through]
  rw [← ownLines_notes one moment bare, writeAll]
  exact List.flatMap_congr own

/-- What making the message noted is let through by its own level. -/
theorem flatMap_ownLines_message (one : root.handlers = [⟨some s.format, s.stream⟩])
    (least : root.level = s.level) (moment : Moment) (event : Event) :
    (event.message .usual).events.flatMap (root.ownLines moment)
      = s.noted root.bound moment event := by
  have notes : Attempt.Notes IsNote (event.message .usual) :=
    notes_message fun v _ => notes_display v
  have kept : ((event.message .usual).events.filter fun note => root.lets note.level)
      = (event.message .usual).events.filter fun note => s.level ≤ note.level := by
    refine List.filter_congr fun note mem => ?_
    have positive : 0 < note.level := Int.lt_of_lt_of_le (by decide) (notes note mem).debug_le
    simp [lets, positive, least]
  rw [ownLines_notes one moment fun note mem => (notes note mem).1, kept]
  rfl

theorem log_of_lets (free : ∀ field ∈ event.fields, field.1 ∉ Record.ownNames)
    (through : root.lets event.level = true) (moment : Moment) :
    root.log moment event = .ok (root.write moment event) := by
  have none : event.fields.find? (fun (name, _) => Record.ownNames.contains name) = none :=
    List.find?_eq_none.mpr fun field mem => by simpa using free field mem
  rw [log, if_pos through, none]

/-- **Runs of the log.**  After any run with a configuration, an event below the level of the
latest one writes nothing.  Any other event writes one record of its own, in the format and to
the stream of the latest configuration, if its message can be made and its fields can be written;
and before it, whether it is written or not, the records of what making the message noted.  That
is nothing if the denominations that the message may show can be read.  A message without
arguments can be made, and fields can be written if their integers have no more digits than the
usual limit.

The fields of the record are those bound since the context was last cleared and then those of
the event without a leading underscore, of each name the last; and the run is left as it was. -/
theorem log_exact {calls : List Call} (accepted : ∀ call ∈ calls, call.IsAccepted)
    (latest : latest? calls = some s)
    (leveled : event.level ∈ [Level.debug, Level.info, Level.warning, Level.error])
    (free : ∀ field ∈ event.fields, field.1 ∉ Record.ownNames) (moment : Moment) :
    let root := start.after calls
    let record : Record := ⟨moment, event, none⟩
    let made := (event.message .usual).outcome
    let fits := record.fits .usual s.format root.bound
    let fields := boundBy calls ++ event.fields.filter fun (name, _) => name.head? != some '_'
    (event.level < s.level → root.log moment event = .ok []) ∧
    (s.level ≤ event.level →
      (∀ message, made = .ok message → fits = true → root.log moment event
          = .ok (s.noted root.bound moment event ++ [s.written root.bound moment event message])) ∧
      ((∃ failure, made = .error failure) ∨ fits = false →
        root.log moment event = .ok (s.noted root.bound moment event))) ∧
    ((∀ v ∈ event.supply.values, IsReadable v) → s.noted root.bound moment event = []) ∧
    (event.arguments = [] → made = .ok event.template) ∧
    ((∀ field ∈ boundBy calls ++ event.fields, field.2.hasText .usual = true) → fits = true) ∧
    record.loggedFields root.bound
      = (Fields.merge [] fields).map (fun (name, v) => (name, v.logged)) ∧
    (∀ name, (Fields.merge [] fields).lookup name = fields.reverse.lookup name) ∧
    start.after (calls ++ [.log moment event]) = root := by
  intro root record made fits fields
  obtain ⟨one, least⟩ := after_configured start accepted latest
  have bound : root.bound = Fields.merge [] (boundBy calls) := bound_after rfl calls
  have positive : 0 < event.level := by
    simp only [List.mem_cons, List.not_mem_nil, or_false] at leveled
    rcases leveled with level | level | level | level <;> rw [level] <;> decide
  have through (above : s.level ≤ event.level) : root.lets event.level = true := by
    simp [lets, positive, root, least, above]
  have logged (above : s.level ≤ event.level) : root.log moment event
      = .ok (s.noted root.bound moment event
          ++ (made.toOption.bind (s.own? root.bound moment event)).toList) := by
    rw [log_of_lets free (through above), write_of_lets one (through above),
      flatMap_ownLines_message one least]
  refine ⟨?below, fun above => ⟨fun message isMade isFit => ?written, fun unwritten => ?missing⟩,
    ?readable, ?bare, ?short, ?merged, Fields.lookup_merge fields, ?unchanged⟩
  case below =>
    intro below
    have blocked : root.lets event.level = false := by
      simp [lets, positive, root, least, below]
    simp [log, blocked]
  case written =>
    have own : s.own? root.bound moment event message
        = some (s.written root.bound moment event message) := if_pos isFit
    rw [logged above, isMade, Except.toOption, Option.bind_some, own]
    rfl
  case missing =>
    have none : made.toOption.bind (s.own? root.bound moment event) = none := by
      rcases unwritten with ⟨failure, unmade⟩ | unfit
      · rw [unmade]
        rfl
      · have own : s.own? root.bound moment event = fun _ => none :=
          funext fun message => if_neg (Bool.eq_false_iff.mp unfit)
        rw [own, Option.bind_fun_none]
    rw [logged above, none]
    exact congrArg Except.ok (List.append_nil _)
  case readable =>
    intro readable
    have silent : (event.message .usual).events = [] := Attempt.Notes.events_nil
      (notes_message fun v mem => notes_display_of_isReadable (readable v mem))
    rw [Setting.noted, silent]
    rfl
  case bare =>
    intro bare
    simp only [made, message_of_no_arguments bare, Attempt.outcome_pure]
  case short =>
    intro short
    simp only [fits, bound]
    exact Record.fits_merge_of_hasText s.format short
  case merged => rw [Record.loggedFields, bound, Record.fields_merge _ _ free]
  case unchanged => rw [after_append]; rfl

end

/-! ## Two runs -/

/-- Nothing is set and nothing is found. -/
def bare : Surroundings := ⟨fun _ => none, fun _ => .nothing⟩

/-- Two configurations, and two bindings with a clearing between them. -/
def twice : List Call :=
  [.configure .json (.text " debug ".toList) "stdout".toList,
   .bind [("command".toList, .text "denom".toList)], .clear,
   .bind [("command".toList, .text "sum".toList), ("left".toList, .int 2)],
   .setUp bare .null (.text "text".toList) errorStream]

def low : Event :=
  ⟨Level.warning, "peggy".toList, "low".toList, [],
   [("left".toList, .int 3), ("_hidden".toList, .null)]⟩

def lowWritten : Written := ⟨errorStream,
  "1970-01-01T00:00:00.000+00:00 WARNING peggy: low [command=sum left=3]\n".toList⟩

theorem log_exact_twice : (start.after twice).log .start low = .ok [lowWritten] := by
  have accepted : ∀ call ∈ twice, call.IsAccepted := by
    simp only [twice, List.forall_mem_cons, List.not_mem_nil, false_implies, implies_true, and_true]
    exact ⟨⟨Level.debug, rfl⟩, trivial, trivial, trivial, ⟨Level.warning, rfl⟩⟩
  have latest : latest? twice = some ⟨.text, Level.warning, errorStream⟩ := rfl
  have leveled : low.level ∈ [Level.debug, Level.info, Level.warning, Level.error] := by decide
  have free : ∀ field ∈ low.fields, field.1 ∉ Record.ownNames := by decide
  obtain ⟨-, above, readable, bare, -⟩ := log_exact accepted latest leveled free .start
  have line : (⟨.text, Level.warning, errorStream⟩ : Setting).written (start.after twice).bound
      .start low low.template = lowWritten := by decide +kernel
  rw [(above (by decide)).1 _ (bare rfl) (by decide +kernel), readable nofun, line,
    List.nil_append]

/-- An argument with no place in the message. -/
def surplus : Event := ⟨Level.info, "peggy".toList, "hello".toList, [.text "x".toList], []⟩

/-- A denomination that names no contract. -/
def unreadable : Event :=
  ⟨Level.info, "peggy".toList, "%s".toList, [.denom ⟨[0x70], Convention.default⟩], []⟩

/-- Below an unchanged level the arguments alone decide how many records are written. -/
theorem arguments_change_count :
    let calls : List Call := [.configure .text (.text "INFO".toList) errorStream]
    latest? calls = some ⟨.text, Level.info, errorStream⟩ ∧
    ((start.after calls).log .start surplus).toOption = some [] ∧
    ((start.after calls).log .start unreadable).toOption.map List.length = some 2 :=
  ⟨rfl, by decide +kernel, by decide +kernel⟩

end Root

end BridgedDenom
