import BridgedDenom.Proofs.Json.Number

/-!
# The compact form of documents

A document without long integers is read back from its compact form (`read_compact`).  The
compact form is a layout with no blanks at all (`laid_compact`), and without long integers all
parts of a document that are neither quoted nor bracketed are words (`legible_of_shortIntegers`).

Whatever a document holds, its compact form is made of printable characters of ASCII
(`isPrintable_compact`), so it stands on one line.  Of a quoted text every other character is
escaped (`isPrintable_quoted`), and numbers have few characters anyway.
-/

namespace BridgedDenom

namespace Json

/-! ## Reading back -/

mutual

/-- No integer in the document has more digits than a reader takes. -/
def ShortIntegers : Json → Prop
  | .int n => (Decimal.ofNat n.natAbs).length ≤ 4300
  | .list items => ShortItems items
  | .object entries => ShortEntries entries
  | _ => True

def ShortItems : List Json → Prop
  | [] => True
  | item :: rest => ShortIntegers item ∧ ShortItems rest

def ShortEntries : List (Text × Json) → Prop
  | [] => True
  | (_, document) :: rest => ShortIntegers document ∧ ShortEntries rest

end

theorem word_null : Word .null (scalar .null) := word_of_mem (.head _)

theorem word_bool (b : Bool) : Word (.bool b) (scalar (.bool b)) := by
  cases b with
  | true => exact word_of_mem (.tail _ (.head _))
  | false => exact word_of_mem (.tail _ (.tail _ (.head _)))

mutual

theorem legible_of_shortIntegers : ∀ document, ShortIntegers document → Legible document
  | .null, _ => word_null
  | .bool b, _ => word_bool b
  | .int _, few => word_int few
  | .float x, _ => word_float x
  | .text _, _ => trivial
  | .list items, short => legibleItems_of_shortItems items short
  | .object entries, short => legibleEntries_of_shortEntries entries short

theorem legibleItems_of_shortItems : ∀ items, ShortItems items → LegibleItems items
  | [], _ => trivial
  | item :: rest, short =>
      ⟨legible_of_shortIntegers item short.1, legibleItems_of_shortItems rest short.2⟩

theorem legibleEntries_of_shortEntries : ∀ entries, ShortEntries entries → LegibleEntries entries
  | [], _ => trivial
  | (_, document) :: rest, short =>
      ⟨legible_of_shortIntegers document short.1, legibleEntries_of_shortEntries rest short.2⟩

end

/-- An entry as it stands in the compact form. -/
theorem laidEntry_compact {document : Json} {s : Text} (key : Text) (laid : Laid document s) :
    LaidEntry key document (quoted key ++ ':' :: s) :=
  .entry isGap_nil isGap_nil laid

mutual

theorem laid_compact : ∀ document, Legible document → Laid document (compact document)
  | .null, word | .bool _, word | .int _, word | .float _, word => .word word
  | .text t, _ => .text t
  | .list [], _ => .emptyList isGap_nil
  | .list (item :: rest), legible => by
      have laid := Laid.list isGap_nil
        (laid_compactItems (item :: rest) (List.cons_ne_nil _ _) legible)
      exact laid
  | .object [], _ => .emptyObject isGap_nil
  | .object (entry :: rest), legible => by
      have laid := Laid.object isGap_nil
        (laid_compactEntries (entry :: rest) (List.cons_ne_nil _ _) legible)
      exact laid

theorem laid_compactItems : ∀ items, items ≠ [] → LegibleItems items →
    LaidItems items (Text.join [','] (compactItems items) ++ [']'])
  | [item], _, legible => .last (laid_compact item legible.1) isGap_nil
  | item :: next :: rest, _, legible => by
      have laid := LaidItems.more (laid_compact item legible.1) isGap_nil isGap_nil
        (laid_compactItems (next :: rest) (List.cons_ne_nil _ _) legible.2)
      simpa only [compactItems, Text.join, List.append_assoc, List.cons_append,
        List.nil_append] using laid

theorem laid_compactEntries : ∀ entries, entries ≠ [] → LegibleEntries entries →
    LaidEntries entries (Text.join [','] (compactEntries entries) ++ ['\x7d'])
  | [(key, document)], _, legible =>
      .last (laidEntry_compact key (laid_compact document legible.1)) isGap_nil
  | (key, document) :: next :: rest, _, legible => by
      have entry := laidEntry_compact key (laid_compact document legible.1)
      have laid := LaidEntries.more entry isGap_nil isGap_nil
        (laid_compactEntries (next :: rest) (List.cons_ne_nil _ _) legible.2)
      simpa only [compactEntries, Text.join, List.append_assoc, List.cons_append,
        List.nil_append] using laid

end

/-- The compact form of a document is read back as the document. -/
theorem read_compact {document : Json} (short : ShortIntegers document)
    (deep : nesting document ≤ nestingLimit) : Json.read document.compact = .ok document := by
  have laid := laid_compact document (legible_of_shortIntegers document short)
  have read := read_laid laid deep isGap_nil isGap_nil
  rwa [List.nil_append, List.append_nil] at read

/-! ## Printable characters -/

/-- The text is made of printable characters of ASCII. -/
def IsPrintable (s : Text) : Prop := ∀ c ∈ s, 0x20 ≤ c.toNat ∧ c.toNat ≤ 0x7E

instance (s : Text) : Decidable (IsPrintable s) :=
  List.decidableBAll (fun (c : Char) => 0x20 ≤ c.toNat ∧ c.toNat ≤ 0x7E) s

section
variable {s t : Text} {c : Char}

theorem isPrintable_nil : IsPrintable [] := nofun

theorem IsPrintable.cons (first : 0x20 ≤ c.toNat ∧ c.toNat ≤ 0x7E) (rest : IsPrintable s) :
    IsPrintable (c :: s) :=
  List.forall_mem_cons.mpr ⟨first, rest⟩

theorem IsPrintable.append (hs : IsPrintable s) (ht : IsPrintable t) : IsPrintable (s ++ t) := by
  intro c mem
  rcases List.mem_append.mp mem with mem | mem
  · exact hs c mem
  · exact ht c mem

theorem isPrintable_join {parts : List Text} (printable : ∀ part ∈ parts, IsPrintable part) :
    IsPrintable (Text.join [','] parts) := by
  induction parts with
  | nil => exact isPrintable_nil
  | cons part rest ih =>
      obtain ⟨first, others⟩ := List.forall_mem_cons.mp printable
      cases rest with
      | nil => exact first
      | cons next rest => exact (first.append (isPrintable_nil.cons (by decide))).append (ih others)

theorem IsDigits.isPrintable (digits : IsDigits s) : IsPrintable s := by
  intro c mem
  obtain ⟨low, high⟩ := Char.isDigit_iff_toNat.mp (digits c mem)
  have zero : '0'.toNat = 48 := rfl
  have nine : '9'.toNat = 57 := rfl
  omega

/-! ### Numbers -/

theorem IsWhole.isPrintable (isWhole : IsWhole s) : IsPrintable s := by
  rcases isWhole with rfl | ⟨c, rest, rfl, -, digits⟩
  · exact isPrintable_nil.cons (by decide)
  · exact digits.isPrintable

theorem isPrintable_fractionText (digits : IsDigits s) : IsPrintable (fractionText s) := by
  cases s with
  | nil => exact isPrintable_nil
  | cons c s => exact digits.isPrintable.cons (by decide)

theorem isPrintable_exponentText (e : Option Int) : IsPrintable (exponentText e) := by
  cases e with
  | none => exact isPrintable_nil
  | some e =>
      have digits : IsDigits (Text.padLeft '0' 2 (Decimal.ofNat e.natAbs)) :=
        (isDigits_zeros _).append (isDigits_ofNat e.natAbs)
      refine (digits.isPrintable.cons ?_).cons (by decide)
      split <;> decide

theorem Denotes.isPrintable {d : Nat} {k : Int} (h : Denotes d k s) : IsPrintable s := by
  cases h with
  | number zeros isWhole digits =>
      exact isWhole.isPrintable.append
        ((isPrintable_fractionText digits).append (isPrintable_exponentText _))

theorem isPrintable_ofInt (n : Int) : IsPrintable (Decimal.ofInt n) := by
  cases n with
  | ofNat n => exact (isDigits_ofNat n).isPrintable
  | negSucc n => exact (isDigits_ofNat (n + 1)).isPrintable.cons (by decide)

theorem isPrintable_float (x : Binary64) : IsPrintable (Binary64.inJson.write x) := by
  have words : ∀ word ∈ ["NaN".toList, "Infinity".toList, "-Infinity".toList],
      IsPrintable word := by
    decide
  cases x with
  | nan => exact words _ (.head _)
  | infinite negative =>
      cases negative with
      | false => exact words _ (.tail _ (.head _))
      | true => exact words _ (.tail _ (.tail _ (.head _)))
  | finite negative rank =>
      obtain ⟨d, k, denotes, -⟩ := exists_denotes rank
      rw [Binary64.Layout.write_finite]
      split
      · exact denotes.isPrintable.cons (by decide)
      · exact denotes.isPrintable

/-! ### Quoted texts -/

theorem isPrintable_unit {u : Nat} (small : u < 0x10000) :
    IsPrintable ('\\' :: 'u' :: Text.hexCode 4 u) := by
  have digit (n : Nat) (small : n < 16) :
      0x20 ≤ (Nat.digitChar n).toNat ∧ (Nat.digitChar n).toNat ≤ 0x7E := by
    have checked : ∀ n < 16, 0x20 ≤ (Nat.digitChar n).toNat ∧ (Nat.digitChar n).toNat ≤ 0x7E := by
      decide
    exact checked n small
  have digits : IsPrintable (Text.hexCode 4 u) := by
    rw [Text.hexCode_four small]
    exact (((isPrintable_nil.cons (digit _ (by omega))).cons (digit _ (by omega))).cons
      (digit _ (by omega))).cons (digit _ (by omega))
  exact (digits.cons (by decide)).cons (by decide)

theorem isPrintable_escapedChar (c : Char) : IsPrintable (escapedChar c) := by
  cases short : shortEscapes.lookup c with
  | some letter =>
      have checked : ∀ e ∈ shortEscapes, 0x20 ≤ e.2.toNat ∧ e.2.toNat ≤ 0x7E := by decide
      obtain ⟨before, after, parts, -⟩ := List.lookup_eq_some_iff.mp short
      have mem : (c, letter) ∈ shortEscapes :=
        parts ▸ List.mem_append_right before List.mem_cons_self
      rw [escapedChar, short]
      exact (isPrintable_nil.cons (checked _ mem)).cons (by decide)
  | none =>
      simp only [escapedChar, short]
      split
      case isTrue plain =>
        rw [Bool.and_eq_true, decide_eq_true_eq, decide_eq_true_eq] at plain
        exact isPrintable_nil.cons plain
      case isFalse =>
        intro d mem
        obtain ⟨u, unit, mem⟩ := List.mem_flatMap.mp mem
        exact isPrintable_unit (Text.lt_of_mem_units unit) d mem

theorem isPrintable_quoted (s : Text) : IsPrintable (quoted s) := by
  refine IsPrintable.append (IsPrintable.cons (by decide) fun c mem => ?_)
    (isPrintable_nil.cons (by decide))
  obtain ⟨d, -, mem⟩ := List.mem_flatMap.mp mem
  exact isPrintable_escapedChar d c mem

end

/-! ### Documents -/

mutual

/-- The compact form of a document is one line of printable characters of ASCII. -/
theorem isPrintable_compact : ∀ document, IsPrintable (compact document)
  | .null => by decide
  | .bool true => by decide
  | .bool false => by decide
  | .int n => isPrintable_ofInt n
  | .float x => isPrintable_float x
  | .text s => isPrintable_quoted s
  | .list items => ((isPrintable_join (isPrintable_compactItems items)).cons (by decide)).append
      (isPrintable_nil.cons (by decide))
  | .object entries => ((isPrintable_join (isPrintable_compactEntries entries)).cons
      (by decide)).append (isPrintable_nil.cons (by decide))

theorem isPrintable_compactItems : ∀ items, ∀ part ∈ compactItems items, IsPrintable part
  | [] => nofun
  | item :: rest => List.forall_mem_cons.mpr
      ⟨isPrintable_compact item, isPrintable_compactItems rest⟩

theorem isPrintable_compactEntries : ∀ entries, ∀ part ∈ compactEntries entries, IsPrintable part
  | [] => nofun
  | (key, document) :: rest => List.forall_mem_cons.mpr
      ⟨(isPrintable_quoted key).append ((isPrintable_compact document).cons (by decide)),
        isPrintable_compactEntries rest⟩

end

end Json

end BridgedDenom
