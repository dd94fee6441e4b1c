import BridgedDenom.CommandLine.Run
import BridgedDenom.Proofs.Log.SetUp

/-!
# Asking for a command

A command line asks for a command if its general options name a level that is known, if they
name any, and the rest is read as the command (`Asks`).  Then logging is set up and the
command is run, so all that a run prints is decided by the steps of the command
(`Asks.exists_runBy_eq`).  None of this depends on how configuration files are read.

What steps do one after the other is said by two lemmas, one for a step that has a result
(`run_bind_of_ok`) and one for a step that stops the command (`run_bind_of_stop`).
-/

namespace BridgedDenom

namespace CommandLine

/-! ## Levels -/

/-- The level that is asked for: that of the option, or else that of the variable, where an
empty text is none. -/
def levelAsked? (around : Surroundings) (option : Option Text) : Option Text :=
  (option.filter (· ≠ [])).or ((around.environment? Root.levelVariable).filter (· ≠ []))

/-- No level is asked for, or one with a name. -/
def LevelKnown (around : Surroundings) (option : Option Text) : Prop :=
  ∀ s, levelAsked? around option = some s → (Level.ofText? s).isSome = true

section
variable {around : Surroundings} {option : Option Text}

theorem exists_levelOfValue {s : Text} (known : (Level.ofText? s).isSome = true) :
    ∃ l, Root.levelOfValue (.text s) = .ok l := by
  obtain ⟨l, named⟩ := Option.isSome_iff_exists.mp known
  exact ⟨l, by rw [Root.levelOfValue, named]; rfl⟩

/-- Without a level from the option the variable is asked, and then there is a default. -/
theorem exists_level_of_null (known : LevelKnown around none) :
    ∃ l, Root.levelOfValue (Root.chosenLevel around .null) = .ok l := by
  cases set : around.environment? Root.levelVariable with
  | none =>
      simp only [Root.chosenLevel, set]
      exact exists_levelOfValue (by decide)
  | some s =>
      cases s with
      | nil =>
          simp only [Root.chosenLevel, set]
          exact exists_levelOfValue (by decide)
      | cons c rest =>
          simp only [Root.chosenLevel, set]
          exact exists_levelOfValue (known (c :: rest) (by simp [levelAsked?, set]))

/-- A level that was given is brought into upper case first. -/
theorem exists_level_of_text {s : Text} (known : (Level.ofText? s).isSome = true) :
    ∃ l, Root.levelOfValue (Root.chosenLevel around (.text s.upper)) = .ok l :=
  exists_levelOfValue (by rw [Level.ofText?_upper known, known])

theorem exists_level (known : LevelKnown around option) : ∃ l, Root.levelOfValue
    (Root.chosenLevel around (levelValue (option.or (around.environment? Root.levelVariable))))
      = .ok l := by
  match option, known with
  | some (c :: rest), known => exact exists_level_of_text (known (c :: rest) rfl)
  -- An empty option counts as given, so the variable is looked at only by the set-up.
  | some [], known => exact exists_level_of_null known
  | none, known =>
      cases set : around.environment? Root.levelVariable with
      | none => exact exists_level_of_null known
      | some s =>
          cases s with
          | nil => exact exists_level_of_null known
          | cons c rest =>
              exact exists_level_of_text (known (c :: rest) (by simp [levelAsked?, set]))

end

/-! ## Bare surroundings -/

/-- No variable is set and nothing is found anywhere. -/
def bare : Surroundings := ⟨fun _ => none, fun _ => .nothing⟩

/-- The command line is read as the command, under a level that is known. -/
def Asks (around : Surroundings) (arguments : List Text) (command : Command) : Prop :=
  ∃ selection, Selection.read arguments = .request selection ∧
    LevelKnown around selection.logLevel ∧
    Command.read selection.command selection.rest = .request command

section
variable {around : Surroundings} {arguments rest : List Text} {command : Command}
  {name : CommandName} {argument : Text}

theorem Asks.exists_runBy_eq (asks : Asks around arguments command) (read : Settings.Reader) :
    ∃ root, ∀ version moment, runBy read version around moment arguments
      = command.run read around root moment := by
  obtain ⟨selection, selected, known, request⟩ := asks
  obtain ⟨root, setUp⟩ := Root.exists_setUp Root.start (selection.logFormat.getD "text".toList)
    Root.errorStream (exists_level known)
  refine ⟨root.clear.bind [(commandField, .text selection.command.text)], fun version moment => ?_⟩
  simp only [runBy, selected, Selection.run, levelOf, formatOf, setUp, request]

theorem not_options_end (plain : Arguments.isOption argument = false) : argument ≠ ['-', '-'] := by
  rintro rfl
  cases plain

/-- The name of a command is no option, so it ends the general ones. -/
theorem selection_read (name : CommandName) (rest : List Text) :
    Selection.read (name.text :: rest) = .request ⟨none, none, name, rest⟩ := by
  have plain : Arguments.isOption name.text = false := by cases name <;> rfl
  have found : Arguments.read? generalOptions false (name.text :: rest)
      = some ⟨[], name.text :: rest⟩ := by
    simp [Arguments.read?, plain, not_options_end plain]
  have named : CommandName.ofText? name.text = some name := by cases name <;> decide
  simp [Selection.read, found, named, early?, Arguments.value?]

theorem asks_of_read (name : CommandName) (known : LevelKnown around none)
    (read : Command.read name rest = .request command) :
    Asks around (name.text :: rest) command :=
  ⟨⟨none, none, name, rest⟩, selection_read name rest, known, read⟩

end

/-! ## Steps -/

section
variable {α β : Type} {stop : Stop} {failure : Failure} {isReported : Failure → Bool}
  {before events : List Event} {a : α}

theorem run_bind_of_ok {x : Step α} (h : x.run = ⟨.ok a, before⟩) (f : α → Step β) :
    (x >>= f).run = ⟨(f a).run.value, before ++ (f a).run.events⟩ := by
  rw [ExceptT.run_bind, h]
  rfl

/-- After a step that notes nothing, the rest of the command is all there is. -/
theorem run_bind_of_silent {x : Step α} (h : x.run = ⟨.ok a, []⟩) (f : α → Step β) :
    (x >>= f).run = (f a).run := by
  rw [run_bind_of_ok h, List.nil_append]

theorem run_bind_of_stop {x : Step α} (h : x.run = ⟨.error stop, before⟩) (f : α → Step β) :
    (x >>= f).run = ⟨.error stop, before⟩ := by
  rw [ExceptT.run_bind, h]
  simp [bind, pure]

theorem run_reporting_of_ok {x : Attempt α} (h : x.outcome = .ok a) :
    (reporting isReported x).run = ⟨.ok a, x.events⟩ := by
  have value : x.run.value = .ok a := h
  simp [reporting, ExceptT.run_mk, bind, value, pure, Attempt.events]

theorem run_reporting_ofExcept_ok {x : Except Failure α} (h : x = .ok a) :
    (reporting isReported (.ofExcept x)).run = ⟨.ok a, []⟩ :=
  run_reporting_of_ok h

end

/-! ## Commands -/

section
variable {read : Settings.Reader} {around : Surroundings} {root : Root} {moment : Moment}
  {command : Command} {output : Text} {failure : Failure} {events : List Event}

@[simp] theorem logText_nil (root : Root) (moment : Moment) : logText root moment [] = [] := rfl

theorem run_of_ok (h : (command.output read around).run = ⟨.ok output, events⟩) :
    command.run read around root moment = .ended 0 output (logText root moment events) := by
  simp only [Command.run, h]

/-- However the clock stands, the run ends with the status and these texts. -/
def Ends (read : Settings.Reader) (around : Surroundings) (arguments : List Text) (status : Nat)
    (output errors : Text) : Prop :=
  ∀ version moment, runBy read version around moment arguments = .ended status output errors

theorem Asks.ends_of_ok {arguments : List Text} (asks : Asks around arguments command)
    (h : (command.output read around).run = ⟨.ok output, []⟩) :
    Ends read around arguments 0 output [] := by
  obtain ⟨root, same⟩ := asks.exists_runBy_eq read
  intro version moment
  rw [same, run_of_ok h, logText_nil]

/-- The convention in force is the one that is printed. -/
theorem pretty_of_load {c : Convention} (loads : Settings.loadBy read around = .ok c) :
    Settings.prettyBy read around = .ok c.pretty := by
  rw [Settings.prettyBy, loads]
  rfl

end

end CommandLine

end BridgedDenom
