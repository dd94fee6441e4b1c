import BridgedDenom.Proofs.Denomination.Notes
import BridgedDenom.Proofs.Text.Lines
import BridgedDenom.Proofs.Value.Parts
import Mathlib.Algebra.Order.BigOperators.Group.List
import Mathlib.Algebra.Order.Group.Nat

/-!
# Records as text

A record without a failure whose message can be made and whose fields can be written is laid out
as one line of text, but nothing in it is escaped: the line breaks of its parts come out as they
are (`line_breaks_exact`).

*Values.*  What is quoted stands on one line, so in the literal of a value only the days and
moments in it can break the line (`breaks_literal`).  A field that is a text comes out as it is,
and so does the denomination of a coin (`breaks_inLine_logged`).

*Lines.*  The time, the level and the marks between the parts have no line breaks.  The line has
those of the logger, of the message, and of the names and values of the fields (`breaks_line`).

*Forgery.*  A text that does not start as a denomination does is noted with itself as a field.
Between two line breaks such a text may be anything (`infix_text_mismatch`), so whoever has a
text read decides what a whole line of the log says.
-/

namespace BridgedDenom

open Text (breaks breaks_append breaks_cons_plain)

/-! ## Values -/

namespace Value

/-- The line breaks of a day or a moment as it was written. -/
def timeBreaks : Value → Nat
  | .time written => breaks written
  | _ => 0

/-- The line breaks of a value as a field of a line. -/
def lineBreaks : Value → Nat
  | .text s => breaks s
  | .coin name _ => breaks name
  | v => (v.parts.map timeBreaks).sum

theorem breaks_bytesLiteral (form : ByteForm) (data : Bytes) :
    breaks (bytesLiteral form data) = 0 := by
  cases form with
  | fixed => exact Bytes.breaks_quoted data
  | buffer =>
      unfold bytesLiteral
      rw [breaks_append, breaks_append, Bytes.breaks_quotedBuffer]
      rfl
  | view => rfl

/-- A value without others in it has the line breaks of its own. -/
theorem sum_parts_of_single (v : Value) (single : v.parts = [v]) :
    (v.parts.map timeBreaks).sum = timeBreaks v := by
  rw [single, List.map_singleton, List.sum_singleton]

mutual

/-- In the literal of a value everything but days and moments is quoted or plain.  The recursion
is that of the parts: a list or a mapping adds brackets and commas to what is in it. -/
theorem breaks_literal : ∀ v : Value, breaks v.literal = (v.parts.map timeBreaks).sum
  | .null => (sum_parts_of_single .null rfl).symm
  | .bool true => (sum_parts_of_single (.bool true) rfl).symm
  | .bool false => (sum_parts_of_single (.bool false) rfl).symm
  | .int n => (breaks_ofInt n).trans (sum_parts_of_single (.int n) rfl).symm
  | .float x => (breaks_shown x).trans (sum_parts_of_single (.float x) rfl).symm
  | .text s => (Text.breaks_quoted s).trans (sum_parts_of_single (.text s) rfl).symm
  | .time written => (sum_parts_of_single (.time written) rfl).symm
  | .bytes form data =>
      (breaks_bytesLiteral form data).trans (sum_parts_of_single (.bytes form data) rfl).symm
  | .denom d => by
      rw [sum_parts_of_single (.denom d) rfl]
      unfold literal
      rw [breaks_append, breaks_append, Bytes.breaks_quoted]
      rfl
  | .address a => by
      rw [sum_parts_of_single (.address a) rfl]
      unfold literal
      rw [breaks_append, breaks_append, Bytes.breaks_quoted]
      rfl
  | .coin name amount => by
      rw [sum_parts_of_single (.coin name amount) rfl]
      unfold literal
      simp only [breaks_append, Text.breaks_quoted, breaks_ofInt]
      rfl
  | .list items => by
      have apart : breaks ", ".toList = 0 := rfl
      unfold literal
      rw [breaks_append, breaks_cons_plain (by decide), Text.breaks_join apart,
        breaks_literals items, parts, List.map_cons, List.sum_cons]
      exact (Nat.add_zero _).trans (Nat.zero_add _).symm
  | .mapping entries => by
      have apart : breaks ", ".toList = 0 := rfl
      unfold literal
      rw [breaks_append, breaks_cons_plain (by decide), Text.breaks_join apart,
        breaks_entryLiterals entries, parts, List.map_cons, List.sum_cons]
      exact (Nat.add_zero _).trans (Nat.zero_add _).symm

theorem breaks_literals : ∀ items : List Value,
    ((literals items).map breaks).sum = ((itemParts items).map timeBreaks).sum
  | [] => rfl
  | v :: rest => by
      rw [literals, itemParts, List.map_cons, List.sum_cons, List.map_append, List.sum_append,
        breaks_literal v, breaks_literals rest]

theorem breaks_entryLiterals : ∀ entries : List (Text × Value),
    ((entryLiterals entries).map breaks).sum = ((entryParts entries).map timeBreaks).sum
  | [] => rfl
  | (key, v) :: rest => by
      have name : breaks (key.quoted ++ ": ".toList) = 0 := by
        rw [breaks_append, Text.breaks_quoted]
        rfl
      rw [entryLiterals, entryParts, List.map_cons, List.sum_cons, List.map_append,
        List.sum_append, breaks_append, name, Nat.zero_add, breaks_literal v,
        breaks_entryLiterals rest]

end

theorem breaks_inLine_logged (v : Value) : breaks v.logged.inLine = v.lineBreaks := by
  cases v with
  | null => rfl
  | bool b => cases b <;> rfl
  | int n => exact breaks_ofInt n
  | float x => exact breaks_shown x
  | text s => rfl
  | time written => rfl
  | bytes form data =>
      cases form with
      | fixed => exact breaks_encode data
      | buffer => exact breaks_encode data
      | view => rfl
  | denom d => exact breaks_encode d.bytes
  | address a => exact breaks_checksum a
  | coin name amount =>
      have shown : (Value.coin name amount).logged.inLine = Decimal.ofInt amount ++ name := rfl
      rw [shown, breaks_append, breaks_ofInt, Nat.zero_add]
      rfl
  | list items => exact breaks_literal (.list items)
  | mapping entries => exact breaks_literal (.mapping entries)

end Value

/-! ## Times and levels -/

theorem Moment.breaks_digits (width : Nat) (n : Int) : breaks (digits width n) = 0 := by
  have filled : breaks (List.replicate (width - (Decimal.ofInt n).length) '0') = 0 :=
    Text.breaks_of_isPrintable (Json.isDigits_zeros _).isPrintable
  rw [digits, Text.padLeft, breaks_append, filled, breaks_ofInt]

theorem Moment.breaks_stamp (moment : Moment) : breaks moment.stamp = 0 := by
  have zone : breaks "+00:00".toList = 0 := rfl
  simp (disch := decide) only [stamp, breaks_append, breaks_cons_plain, breaks_digits, zone]

theorem Level.breaks_name (level : Level) : breaks level.name = 0 := by
  have names : ∀ entry ∈ named, breaks entry.1 = 0 := by decide
  have front : breaks "Level ".toList = 0 := rfl
  unfold name
  split
  case h_1 found => exact names _ (List.mem_of_find?_eq_some found)
  case h_2 => rw [breaks_append, front, breaks_ofInt]

/-! ## Lines -/

theorem Text.infix_join {part separator : Text} {parts : List Text} (mem : part ∈ parts) :
    part <:+: join separator parts := by
  induction parts with
  | nil => cases mem
  | cons first rest ih =>
      cases rest with
      | nil =>
          cases List.mem_singleton.mp mem
          exact List.infix_refl part
      | cons next rest =>
          rcases List.mem_cons.mp mem with rfl | mem
          · have ahead : part <+: part ++ separator := List.prefix_append part separator
            exact (ahead.trans (List.prefix_append _ _)).isInfix
          · exact (ih mem).trans (List.suffix_append _ _).isInfix

namespace Record

section
variable {bound : Fields} {field : Text × Value}

/-- A field as it stands in a line. -/
def fieldText (field : Text × Value) : Text := field.1 ++ '=' :: field.2.logged.inLine

def fieldTexts (bound : Fields) (record : Record) : List Text :=
  (record.fields bound).map fieldText

/-- What stands in a line before the message. -/
def front (record : Record) : Text :=
  record.moment.stamp ++ ' ' :: record.event.level.name ++ ' ' :: record.event.logger
    ++ ": ".toList

/-- What stands in a line after the message. -/
def back (bound : Fields) (record : Record) : Text :=
  if (record.fieldTexts bound).isEmpty then []
  else " [".toList ++ Text.join [' '] (record.fieldTexts bound) ++ [']']

theorem line_eq (bound : Fields) (record : Record) (message : Text) :
    record.line bound message = record.front ++ message ++ record.back bound := by
  have shown : (record.loggedFields bound).map (fun entry => entry.1 ++ '=' :: entry.2.inLine)
      = record.fieldTexts bound := List.map_map
  rw [back, ← shown]
  rfl

theorem breaks_front (record : Record) : breaks record.front = breaks record.event.logger := by
  have mark : breaks ": ".toList = 0 := rfl
  simp (disch := decide) only [front, breaks_append, breaks_cons_plain, Moment.breaks_stamp,
    Level.breaks_name, mark, Nat.zero_add, Nat.add_zero]

theorem breaks_fieldText (field : Text × Value) :
    breaks (fieldText field) = breaks field.1 + field.2.lineBreaks := by
  rw [fieldText, breaks_append, breaks_cons_plain (by decide), Value.breaks_inLine_logged]

theorem breaks_back (bound : Fields) (record : Record) : breaks (record.back bound)
    = ((record.fields bound).map fun field => breaks field.1 + field.2.lineBreaks).sum := by
  have counts : (record.fieldTexts bound).map breaks
      = (record.fields bound).map fun field => breaks field.1 + field.2.lineBreaks :=
    List.map_map.trans (List.map_congr_left fun field _ => breaks_fieldText field)
  have mark : breaks " [".toList = 0 := rfl
  rw [← counts, back]
  split
  case isTrue none =>
    rw [List.isEmpty_iff.mp none]
    rfl
  case isFalse =>
    rw [breaks_append, breaks_append, mark, Text.breaks_join rfl, Nat.zero_add]
    rfl

/-- The line breaks of a line are those of the logger, the message and the fields. -/
theorem breaks_line (bound : Fields) (record : Record) (message : Text) :
    breaks (record.line bound message) = breaks record.event.logger + breaks message
      + ((record.fields bound).map fun field => breaks field.1 + field.2.lineBreaks).sum := by
  rw [line_eq, breaks_append, breaks_append, breaks_front, breaks_back]

theorem infix_line_message (bound : Fields) (record : Record) (message : Text) :
    message <:+: record.line bound message :=
  ⟨record.front, record.back bound, (line_eq bound record message).symm⟩

theorem infix_line_field {record : Record} (mem : field ∈ record.fields bound) (message : Text) :
    fieldText field <:+: record.line bound message := by
  have shown : fieldText field ∈ record.fieldTexts bound := List.mem_map_of_mem mem
  have some : ¬ (record.fieldTexts bound).isEmpty = true := fun none => by
    rw [List.isEmpty_iff.mp none] at shown
    cases shown
  have within : fieldText field <:+: record.back bound := by
    rw [back, if_neg some]
    exact (Text.infix_join shown).trans ⟨" [".toList, [']'], rfl⟩
  rw [line_eq]
  exact within.trans (List.suffix_append _ _).isInfix

end

end Record

/-! ## Forgery -/

/-- A text on a line of its own. -/
def Text.onOwnLine (s : Text) : Text := '\n' :: s ++ ['\n']

/-- A denomination starts with a letter. -/
theorem Convention.lead_not_prefix (c : Convention) {x : Char} (other : x.isAlpha = false)
    (t : Text) : ¬ c.lead <+: x :: t := by
  intro starts
  have named := c.isName_lead
  cases led : c.lead with
  | nil =>
      rw [led] at named
      cases named
  | cons first rest =>
      rw [led] at named starts
      obtain ⟨rfl, -⟩ := List.cons_prefix_cons.mp starts
      simp [Text.isName, other] at named

/-- The note of a text that is refused for its lead has the text as a field. -/
theorem Convention.infix_text_mismatch (c : Convention) {s : Text} (starts : ¬ c.lead <+: s)
    (bound : Fields) (moment : Moment) : ∃ note, (c.decodeText s).events = [note] ∧
      note.fields = [("denom".toList, .text s)] ∧
      s <:+: Record.line bound ⟨moment, note, none⟩ note.template := by
  have noted : (c.decodeText s).events
      = [⟨Level.debug, Denomination.logger, "denom string prefix mismatch".toList, [],
          [("denom".toList, .text s)]⟩] := by
    simp [decodeText, starts]
  refine ⟨_, noted, rfl, ?_⟩
  have field : ("denom".toList, Value.text s) ∈ Record.fields bound
      ⟨moment, ⟨Level.debug, Denomination.logger, "denom string prefix mismatch".toList, [],
        [("denom".toList, .text s)]⟩, none⟩ :=
    Fields.mem_set_self bound "denom".toList (.text s)
  have within : s <:+: Record.fieldText ("denom".toList, .text s) :=
    ⟨"denom=".toList, [], List.append_nil _⟩
  exact within.trans (Record.infix_line_field field _)

namespace Record

/-- **Line breaks in text.**  A record without a failure has a text if its message can be made and
its fields can be written; the failure to make the message comes out of it first, and then the
failure to write an integer of too many digits.  Fields can be written if they hold no such integer.

The line breaks of the text are those of the logger, of the message, and of the names and values
of the fields; none is escaped, so the text is one line if and only if all of these are.  The
message and each field stand in it as they are.

So a log in text can be forged.  Where debug is let through and the context can be written, a text
to be read as a denomination may put any line at all into the log. -/
theorem line_breaks_exact (moment : Moment) (event : Event) (context : Fields) :
    let record : Record := ⟨moment, event, none⟩
    let made := (event.message .usual).outcome
    let fits := record.fits .usual .text context
    (∀ failure, made = .error failure →
      (record.text .usual context).outcome = .error failure) ∧
    (∀ message, made = .ok message → fits = false →
      (record.text .usual context).outcome = .error .badValue) ∧
    ((∀ field ∈ context ++ event.fields, field.2.hasText .usual = true) → fits = true) ∧
    (∀ message, made = .ok message → fits = true → ∃ s,
      (record.text .usual context).outcome = .ok s ∧
      breaks s = breaks event.logger + breaks message
        + ((record.fields context).map fun field => breaks field.1 + field.2.lineBreaks).sum ∧
      (breaks s = 0 ↔ breaks event.logger = 0 ∧ breaks message = 0 ∧
        ∀ field ∈ record.fields context, breaks field.1 = 0 ∧ field.2.lineBreaks = 0) ∧
      message <:+: s ∧
      ∀ field ∈ record.fields context, fieldText field <:+: s) ∧
    (∀ (root : Root) (stream : Stream),
      root.handlers = [⟨some .text, stream⟩] → root.level ≤ Level.debug →
      (∀ field ∈ root.bound, field.2.hasText .usual = true) →
        ∀ (c : Convention) (forged : Text), ∃ line,
          root.writeAll moment (c.decodeText forged.onOwnLine).events = [⟨stream, line⟩] ∧
          forged.onOwnLine <:+: line) := by
  intro record made fits
  refine ⟨fun failure unmade => outcome_lineWithin_of_error unmade,
    fun message isMade unfit => outcome_lineWithin_of_not_fits isMade unfit,
    fun short => fits_of_hasText .text short, fun message isMade isFit => ?written,
    fun root stream one least short c forged => ?forged⟩
  case written =>
    have written : (record.text .usual context).outcome = .ok (record.line context message) :=
      (outcome_lineWithin_of_fits isMade isFit).trans
        (congrArg Except.ok (List.append_nil _))
    have count := breaks_line context record message
    refine ⟨_, written, count, ?_, infix_line_message context record message,
      fun field mem => infix_line_field mem message⟩
    rw [count, Nat.add_eq_zero_iff, Nat.add_eq_zero_iff, and_assoc, List.sum_eq_zero_iff,
      List.forall_mem_map]
    simp only [Nat.add_eq_zero_iff, record]
  case forged =>
    have starts : ¬ c.lead <+: forged.onOwnLine := c.lead_not_prefix rfl _
    obtain ⟨note, noted, fields, within⟩ := c.infix_text_mismatch starts root.bound moment
    obtain ⟨recorded, own⟩ := recorded_of_notes (c.notes_decodeText forged.onOwnLine) root
      ⟨.text, Level.debug, stream⟩ moment one least
    rw [noted] at recorded own ⊢
    have writable : ∀ field ∈ root.bound ++ note.fields, field.2.hasText .usual = true := by
      rw [fields]
      exact List.forall_mem_append.mpr ⟨short, List.forall_mem_singleton.mpr rfl⟩
    rw [List.filterMap_cons, own note (List.mem_singleton_self note) writable] at recorded
    exact ⟨_, recorded, within.trans (List.prefix_append _ _).isInfix⟩

/-- A message of two lines, and a denomination with a line of the log in it. -/
theorem two_lines :
    let greeting : Record :=
      ⟨.start, ⟨Level.info, "peggy".toList, "hello\nworld".toList, [], []⟩, none⟩
    let refused := Convention.default.decodeText
      "x\n2025-01-05T12:34:56.789+00:00 ERROR peggy: forged".toList
    (greeting.text .usual []).outcome.toOption
      = some "1970-01-01T00:00:00.000+00:00 INFO peggy: hello\nworld".toList ∧
    refused.events.map (fun note => (text .usual [] ⟨.start, note, none⟩).outcome.toOption)
      = [some ("1970-01-01T00:00:00.000+00:00 DEBUG peggy.denom: ".toList
          ++ "denom string prefix mismatch [denom=x\n".toList
          ++ "2025-01-05T12:34:56.789+00:00 ERROR peggy: forged]".toList)] := by
  decide +kernel

end Record

end BridgedDenom
