import ModuleAudit.Text.Case
import ModuleAudit.Text.Words

/-!
# Letters and digits by their numbers

The classes of characters at which texts are cut hold of a code point by its number.
No capital is a small letter, no digit of any script is a letter, and outside of ASCII no
digit has a small form. So a text of ASCII characters and digits is lower-cased one by one.
-/

namespace ModuleAudit

namespace CodePoint

variable {c : CodePoint}

theorem toNat_of_char? {d : Char} (found : c.char? = some d) : d.toNat = c.value := by
  rw [char?] at found
  split at found
  · cases found
  · rename_i plain
    have valid : c.value.isValidChar := by
      have inside := c.value_lt
      rw [isSurrogate, Bool.and_eq_true, decide_eq_true_eq, decide_eq_true_eq] at plain
      rw [Nat.isValidChar]
      omega
    rw [← Option.some.inj found, Char.ofNat, dif_pos valid]
    rfl

theorem exists_char? (small : c.value < 0xD800) : ∃ d, c.char? = some d := by
  refine ⟨Char.ofNat c.value, ?_⟩
  rw [char?, if_neg]
  rw [isSurrogate, Bool.and_eq_true, decide_eq_true_eq, decide_eq_true_eq]
  omega

/-- A class of characters between two of them is one of the code points between their
numbers, if these are below the surrogates. -/
theorem is_iff_between {property : Char → Bool} (low high : UInt32) (small : high.toNat < 0xD800)
    (spec : ∀ d : Char, property d = true ↔ low ≤ d.val ∧ d.val ≤ high) (c : CodePoint) :
    c.is property = true ↔ low.toNat ≤ c.value ∧ c.value ≤ high.toNat := by
  cases found : c.char? with
  | none =>
    have outside : ¬ (low.toNat ≤ c.value ∧ c.value ≤ high.toNat) := by
      intro inside
      obtain ⟨d, some⟩ := exists_char? (show c.value < 0xD800 by omega)
      simp [found] at some
    simp only [is, found, Option.any_none, outside, Bool.false_eq_true]
  | some d =>
    rw [is, found, Option.any_some, spec, UInt32.le_iff_toNat_le, UInt32.le_iff_toNat_le,
      ← toNat_of_char? found]
    rfl

theorem is_isUpper_iff (c : CodePoint) :
    c.is Char.isUpper = true ↔ 65 ≤ c.value ∧ c.value ≤ 90 :=
  is_iff_between 65 90 (by decide) (fun _ => decide_eq_true_iff) c

theorem is_isLower_iff (c : CodePoint) :
    c.is Char.isLower = true ↔ 97 ≤ c.value ∧ c.value ≤ 122 :=
  is_iff_between 97 122 (by decide)
    (fun _ => Bool.and_eq_true_iff.trans (and_congr decide_eq_true_iff decide_eq_true_iff)) c

theorem is_isDigit_iff (c : CodePoint) :
    c.is Char.isDigit = true ↔ 48 ≤ c.value ∧ c.value ≤ 57 :=
  is_iff_between 48 57 (by decide)
    (fun _ => Bool.and_eq_true_iff.trans (and_congr decide_eq_true_iff decide_eq_true_iff)) c

theorem is_isAlpha (c : CodePoint) :
    c.is Char.isAlpha = (c.is Char.isUpper || c.is Char.isLower) := by
  cases found : c.char? with
  | none => simp [is, found]
  | some d =>
    simp only [is, found, Option.any_some]
    rfl

/-- A capital is no small letter. -/
theorem isLower_of_isUpper (capital : c.is Char.isUpper = true) : c.is Char.isLower = false := by
  rw [is_isUpper_iff] at capital
  rw [Bool.eq_false_iff, ne_eq, is_isLower_iff]
  omega

/-- A small letter is no capital. -/
theorem isUpper_of_isLower (small : c.is Char.isLower = true) : c.is Char.isUpper = false := by
  rw [Bool.eq_false_iff]
  intro capital
  rw [isLower_of_isUpper capital] at small
  cases small

theorem value_mapChar_toLower (c : CodePoint) :
    (c.mapChar Char.toLower).value = if c.is Char.isUpper then c.value + 32 else c.value := by
  cases found : c.char? with
  | none => simp [mapChar, is, found]
  | some d =>
    rw [mapChar, found, value_ofChar]
    split
    · rename_i capital
      have inside := (is_isUpper_iff c).1 capital
      rw [is, found, Option.any_some] at capital
      have moved : d.toLower = ⟨d.val + ('a'.val - 'A'.val), _⟩ :=
        dif_pos (of_decide_eq_true capital)
      rw [moved, Char.toNat, UInt32.toNat_add, Char.toNat_val, toNat_of_char? found,
        show ('a'.val - 'A'.val).toNat = 32 from rfl]
      omega
    · rename_i other
      rw [is, found, Option.any_some] at other
      have same : d.toLower = d := dif_neg (mt decide_eq_true other)
      rw [same, toNat_of_char? found]

theorem value_mapChar_toUpper (c : CodePoint) :
    (c.mapChar Char.toUpper).value = if c.is Char.isLower then c.value - 32 else c.value := by
  cases found : c.char? with
  | none => simp [mapChar, is, found]
  | some d =>
    rw [mapChar, found, value_ofChar]
    split
    · rename_i small
      have inside := (is_isLower_iff c).1 small
      rw [is, found, Option.any_some] at small
      have bounds := (Bool.and_eq_true _ _).mp small
      have between : 'a'.val ≤ d.val ∧ d.val ≤ 'z'.val :=
        ⟨of_decide_eq_true bounds.1, of_decide_eq_true bounds.2⟩
      have moved : d.toUpper = ⟨d.val + ('A'.val - 'a'.val), _⟩ := dif_pos between
      rw [moved, Char.toNat, UInt32.toNat_add, Char.toNat_val, toNat_of_char? found,
        show ('A'.val - 'a'.val).toNat = 2 ^ 32 - 32 from rfl]
      omega
    · rename_i other
      rw [is, found, Option.any_some] at other
      have same : d.toUpper = d := dif_neg fun bounds => other
        ((Bool.and_eq_true _ _).mpr ⟨decide_eq_true bounds.1, decide_eq_true bounds.2⟩)
      rw [same, toNat_of_char? found]

end CodePoint

namespace Text

theorem exists_range_of_isDigit {c : CodePoint} (digit : isDigit c = true) :
    ∃ r ∈ digitRanges, r.1 ≤ c.value ∧ c.value ≤ r.2 := by
  simpa [isDigit, Ranges.contains] using digit

/-- No digit is a letter. -/
theorem not_letter_of_isDigit {c : CodePoint} (digit : isDigit c = true) :
    c.is Char.isUpper = false ∧ c.is Char.isLower = false := by
  have apart : ∀ r ∈ digitRanges, r.2 < 65 ∨ 122 < r.1 := by decide
  obtain ⟨r, listed, inside⟩ := exists_range_of_isDigit digit
  have := apart r listed
  rw [Bool.eq_false_iff, Bool.eq_false_iff, ne_eq, ne_eq, CodePoint.is_isUpper_iff,
    CodePoint.is_isLower_iff]
  omega

/-- A code point that is no capital of ASCII is left alone. -/
theorem mapChar_toLower_of_not_isUpper {c : CodePoint} (other : ¬ c.is Char.isUpper = true) :
    c.mapChar Char.toLower = c :=
  CodePoint.ext (by rw [CodePoint.value_mapChar_toLower, if_neg other])

theorem map_toLower_of_not_isUpper {text : Text} (small : ∀ c ∈ text, c.is Char.isUpper = false) :
    text.map (CodePoint.mapChar Char.toLower) = text := by
  refine (List.map_congr_left fun c hc => ?_).trans (List.map_id _)
  exact mapChar_toLower_of_not_isUpper (by simp [small c hc])

/-- A code point whose small form depends neither on its neighbours nor on tables: an ASCII
character, or a digit of any script. -/
def Plain (c : CodePoint) : Prop := c.value < 128 ∨ isDigit c = true

/-- A plain code point has one small form, which is its own unless it is a capital of ASCII. -/
theorem lowerPoint_of_plain {c : CodePoint} (plain : Plain c) :
    lowerPoint c = [c.mapChar Char.toLower] := by
  by_cases ascii : c.value < 128
  · rw [lowerPoint, if_pos ascii]
  · have digit : isDigit c = true := plain.resolve_left ascii
    have apart : ∀ r ∈ digitRanges, ¬ (r.1 ≤ 0x130 ∧ 0x130 ≤ r.2) ∧
        ∀ run ∈ lowerRuns, run.last < r.1 ∨ r.2 < run.first := by
      decide +kernel
    obtain ⟨r, listed, inside⟩ := exists_range_of_isDigit digit
    obtain ⟨dotted, unlisted⟩ := apart r listed
    have missing : lowerRuns.find? (fun run => run.contains c.value) = none := by
      refine List.find?_eq_none.2 fun run among => ?_
      have := unlisted run among
      simp only [CaseRun.contains, Bool.and_eq_true, decide_eq_true_eq]
      omega
    have capital : ¬ c.is Char.isUpper = true := by
      rw [CodePoint.is_isUpper_iff]
      omega
    rw [lowerPoint, if_neg ascii, if_neg (show ¬ c.value = 0x130 by omega), missing,
      mapChar_toLower_of_not_isUpper capital]

/-- A plain text is lower-cased one by one. -/
theorem lower_eq_map {text : Text} (plain : ∀ c ∈ text, Plain c) :
    lower text = text.map (CodePoint.mapChar Char.toLower) := by
  have after (before : Text) :
      lowerAfter before text = text.map (CodePoint.mapChar Char.toLower) := by
    induction text generalizing before with
    | nil => rfl
    | cons c rest ih =>
      obtain ⟨first, later⟩ := List.forall_mem_cons.1 plain
      have other : c ≠ 'Σ' := by
        rintro rfl
        exact absurd first (by unfold Plain; decide)
      rw [lowerAfter, if_neg other, lowerPoint_of_plain first, ih later]
      rfl
  exact after []

end Text

end ModuleAudit
