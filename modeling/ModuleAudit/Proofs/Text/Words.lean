import Mathlib.Data.Nat.Find
import ModuleAudit.Proofs.Text.Letters

/-!
# No letter is lost between words

A search reads a text from the left. Where it stands it takes the longest word of the
first kind that has one there, and goes on behind it; where no word begins it passes one
code point. The words of a text, which one pass from the right puts together, are those
that the search finds.

So every word is of one kind. Together the words are the letters and digits of the text in
their order, and what stands between words separates whatever stands around it.
-/

namespace ModuleAudit.Text

/-! ## The search -/

/-- The kinds of words, in the order in which they are looked for. -/
inductive WordKind where
  | capitals
  | small
  | digits

namespace WordKind

/-- Whether a word of a kind stands before the rest of a text. Capitals are no word if a
small letter follows them, and small letters may have one capital in front. -/
def fits : WordKind → Text → Text → Bool
  | _, [], _ => false
  | .capitals, c :: word, after =>
    (c :: word).all (fun d => d.is Char.isUpper) && !(after.head?.any fun d => d.is Char.isLower)
  | .small, c :: word, _ =>
    (c.is Char.isLower || (c.is Char.isUpper && !word.isEmpty)) &&
      word.all fun d => d.is Char.isLower
  | .digits, c :: word, _ => (c :: word).all isDigit

/-- The length of the longest word of a kind at the beginning of a text, zero if it has none. -/
def longest (kind : WordKind) (text : Text) : Nat :=
  Nat.findGreatest (fun n => kind.fits (text.take n) (text.drop n) = true) text.length

end WordKind

/-- The length of the word at the beginning of a text, of the first kind that has one, and
zero if none has. -/
def wordLength (text : Text) : Nat :=
  if 0 < WordKind.capitals.longest text then WordKind.capitals.longest text
  else if 0 < WordKind.small.longest text then WordKind.small.longest text
  else WordKind.digits.longest text

/-- The words that are found in a text from left to right, without its first code points,
which the word before them has taken. -/
def searchAfter : Nat → Text → List Text
  | _, [] => []
  | taken + 1, _ :: rest => searchAfter taken rest
  | 0, c :: rest =>
    match wordLength (c :: rest) with
    | 0 => searchAfter 0 rest
    | n + 1 => (c :: rest.take n) :: searchAfter n rest

/-- The words that are found in a text. -/
def search (text : Text) : List Text := searchAfter 0 text

namespace WordKind

variable {kind : WordKind} {text : Text}

/-- A longest word stands where it was looked for, and not with the next code point added. -/
theorem fits_of_longest {n : Nat} (found : kind.longest text = n + 1) :
    kind.fits (text.take (n + 1)) (text.drop (n + 1)) = true ∧
      ∀ next rest, text.drop (n + 1) = next :: rest →
        kind.fits (text.take (n + 1) ++ [next]) rest = false := by
  obtain ⟨inside, fit, longer⟩ := Nat.findGreatest_eq_iff.1 found
  refine ⟨fit (Nat.succ_ne_zero n), fun next rest behind => ?_⟩
  have more : n + 1 < text.length := by
    by_contra short
    simp [List.drop_eq_nil_of_le (Nat.le_of_not_lt short)] at behind
  have unfit := longer (Nat.lt_succ_self (n + 1)) more
  have first : text[n + 1]? = some next := by
    rw [← List.head?_drop, behind, List.head?_cons]
  have tail : text.drop (n + 2) = rest := by
    rw [← List.tail_drop, behind, List.tail_cons]
  rw [List.take_add_one, first, tail] at unfit
  exact Bool.eq_false_iff.2 unfit

theorem ne_nil_of_fits {word after : Text} (fit : kind.fits word after = true) : word ≠ [] := by
  rintro rfl
  cases kind <;> cases fit

/-- Where a word stands there is a longest one. -/
theorem longest_pos {word after : Text} (split : text = word ++ after)
    (fit : kind.fits word after = true) : 0 < kind.longest text := by
  subst split
  refine Nat.findGreatest_pos.2 ⟨word.length, ?_, ?_, ?_⟩
  · exact List.length_pos_iff.2 (ne_nil_of_fits fit)
  · simp
  · simpa using fit

end WordKind

/-! ## Every word is found -/

/-- Whether a text is one word of a longer text: its neighbours belong together and the last
of them does not belong to what follows. -/
def OneWord (after : Text) : Text → Prop
  | [] => False
  | [c] => isWordPart c = true ∧ ∀ next rest, after = next :: rest → sameWord c next rest = false
  | c :: next :: rest =>
    isWordPart c = true ∧ sameWord c next (rest ++ after) = true ∧ OneWord after (next :: rest)

theorem wordsOf_of_oneWord {after word : Text} (one : OneWord after word) :
    wordsOf (word ++ after) = word :: wordsOf after := by
  fun_induction OneWord after word with
  | case1 => cases one
  | case2 c =>
    obtain ⟨part, ends⟩ := one
    cases after with
    | nil => simp [wordsOf, part]
    | cons next rest => simp [wordsOf, part, ends next rest rfl]
  | case3 c next rest ih =>
    obtain ⟨part, together, later⟩ := one
    have tail : wordsOf (next :: (rest ++ after)) = (next :: rest) :: wordsOf after := ih later
    rw [List.cons_append, List.cons_append, wordsOf, if_pos part, if_pos together, tail]
    rfl

namespace WordKind

variable {kind : WordKind} {word after : Text}

theorem isWordPart_of_fits {c : CodePoint} (fit : kind.fits (c :: word) after = true) :
    isWordPart c = true := by
  cases kind with
  | capitals => simp_all [fits, isWordPart]
  | small =>
    simp only [fits, Bool.and_eq_true, Bool.or_eq_true] at fit
    rcases fit.1 with small | capital
    · simp [isWordPart, small]
    · simp [isWordPart, capital.1]
  | digits => simp_all [fits, isWordPart]

/-- Behind the first of a word, what is a word does not depend on the first. -/
theorem fits_cons_cons {c next : CodePoint} {rest : Text}
    (fit : kind.fits (c :: next :: rest) after = true) (word' after' : Text) :
    kind.fits (c :: next :: word') after' = kind.fits (next :: word') after' := by
  cases kind <;> simp_all [fits]

/-- The first two of a word belong together. -/
theorem sameWord_of_fits {c next : CodePoint} {rest : Text}
    (fit : kind.fits (c :: next :: rest) after = true) :
    sameWord c next (rest ++ after) = true := by
  cases kind with
  | capitals =>
    simp only [fits, List.all_cons, Bool.and_eq_true, Bool.not_eq_true'] at fit
    obtain ⟨⟨capital, also, others⟩, behind⟩ := fit
    have free : ((rest ++ after).head?.any fun d => d.is Char.isLower) = false := by
      cases rest with
      | nil => exact behind
      | cons d rest =>
        rw [List.all_cons, Bool.and_eq_true] at others
        exact CodePoint.isLower_of_isUpper others.1
    rw [sameWord, if_pos capital, also, free, Bool.not_false, Bool.and_self, Bool.or_true]
  | small =>
    simp only [fits, List.all_cons, Bool.and_eq_true] at fit
    obtain ⟨first, small, -⟩ := fit
    by_cases capital : c.is Char.isUpper = true
    · simp [sameWord, capital, small]
    · simp_all [sameWord]
  | digits =>
    simp only [fits, List.all_cons, Bool.and_eq_true] at fit
    obtain ⟨digit, also, -⟩ := fit
    obtain ⟨capital, small⟩ := not_letter_of_isDigit digit
    simp [sameWord, capital, small, digit, also]

/-- A word that does not grow by what follows does not belong together with it. -/
theorem sameWord_of_ends {c next : CodePoint} {rest : Text}
    (fit : kind.fits [c] (next :: rest) = true) (ends : kind.fits [c, next] rest = false) :
    sameWord c next rest = false := by
  cases kind with
  | capitals => simp_all [fits, sameWord]
  | small =>
    have small : c.is Char.isLower = true := by simpa [fits] using fit
    have capital := CodePoint.isUpper_of_isLower small
    have stop : next.is Char.isLower = false := by simpa [fits, small] using ends
    simp [sameWord, capital, small, stop]
  | digits =>
    have digit : isDigit c = true := by simpa [fits] using fit
    have stop : isDigit next = false := by simpa [fits, digit] using ends
    obtain ⟨capital, small⟩ := not_letter_of_isDigit digit
    simp [sameWord, capital, small, stop]

theorem oneWord_of_fits (fit : kind.fits word after = true)
    (ends : ∀ next rest, after = next :: rest → kind.fits (word ++ [next]) rest = false) :
    OneWord after word := by
  fun_induction OneWord after word with
  | case1 => exact absurd rfl (ne_nil_of_fits fit)
  | case2 c =>
    refine ⟨isWordPart_of_fits fit, ?_⟩
    rintro next rest rfl
    exact sameWord_of_ends fit (ends next rest rfl)
  | case3 c next rest ih =>
    have tail (word' after' : Text) := fits_cons_cons fit word' after'
    refine ⟨isWordPart_of_fits fit, sameWord_of_fits fit, ih (tail rest after ▸ fit) ?_⟩
    intro behind others split
    exact (tail (rest ++ [behind]) others).symm.trans (ends behind others split)

end WordKind

theorem exists_kind_longest (text : Text) :
    ∃ kind : WordKind, wordLength text = kind.longest text := by
  unfold wordLength
  split_ifs
  · exact ⟨.capitals, rfl⟩
  · exact ⟨.small, rfl⟩
  · exact ⟨.digits, rfl⟩

theorem longest_eq_zero {text : Text} (none : wordLength text = 0) (kind : WordKind) :
    kind.longest text = 0 := by
  unfold wordLength at none
  split_ifs at none
  · omega
  · omega
  · cases kind <;> omega

/-- Where no word begins there is no letter or digit. -/
theorem not_isWordPart_of_wordLength {c : CodePoint} {rest : Text}
    (none : wordLength (c :: rest) = 0) : isWordPart c = false := by
  have nowhere (kind : WordKind) (word after : Text) (split : c :: rest = word ++ after) :
      kind.fits word after = false := by
    rw [Bool.eq_false_iff]
    intro fit
    have positive := WordKind.longest_pos split fit
    rw [longest_eq_zero none kind] at positive
    omega
  have digit : isDigit c = false := by
    simpa [WordKind.fits] using nowhere .digits [c] rest rfl
  have small : c.is Char.isLower = false := by
    simpa [WordKind.fits] using nowhere .small [c] rest rfl
  have capital : c.is Char.isUpper = false := by
    rw [Bool.eq_false_iff]
    intro capital
    -- it is a word of its own, unless it begins one with the small letter behind it
    have alone := nowhere .capitals [c] rest rfl
    cases rest with
    | nil => simp [WordKind.fits, capital] at alone
    | cons next rest =>
      have pair := nowhere .small [c, next] rest rfl
      simp_all [WordKind.fits]
  simp [isWordPart, capital, small, digit]

theorem searchAfter_eq (taken : Nat) (text : Text) :
    searchAfter taken text = wordsOf (text.drop taken) := by
  fun_induction searchAfter taken text with
  | case1 => simp [wordsOf]
  | case2 taken c rest ih => rw [ih, List.drop_succ_cons]
  | case3 c rest none ih =>
    have apart := not_isWordPart_of_wordLength none
    rw [ih, List.drop_zero, List.drop_zero, wordsOf.eq_def (c :: rest)]
    simp [apart]
  | case4 c rest n found ih =>
    obtain ⟨kind, length⟩ := exists_kind_longest (c :: rest)
    obtain ⟨fit, ends⟩ := WordKind.fits_of_longest (length.symm.trans found)
    have first := wordsOf_of_oneWord (WordKind.oneWord_of_fits fit ends)
    rw [List.take_append_drop] at first
    rw [ih, List.drop_zero, first]
    rfl

/-- The words of a text are those that a search from the left finds. -/
theorem wordsOf_eq_search (text : Text) : wordsOf text = search text :=
  (searchAfter_eq 0 text).symm

-- the last of several capitals begins the next word if a small letter follows it
example : wordsOf "getHTTPResponse2" = ["get", "HTTP", "Response", "2"].map ofString := by
  decide +kernel

/-! ## What the words are made of -/

/-- The words together are the letters and digits of the text. -/
theorem flatten_wordsOf (text : Text) : (wordsOf text).flatten = text.filter isWordPart := by
  have front (c : CodePoint) (words : List Text) :
      (consFirst c words).flatten = c :: words.flatten := by
    cases words <;> rfl
  fun_induction wordsOf text with
  | case1 => rfl
  | case2 c part => simp [part]
  | case3 c part next after together ih => rw [front, ih, List.filter_cons_of_pos part]
  | case4 c part next after apart ih =>
    rw [List.flatten_cons, ih, List.filter_cons_of_pos part, List.singleton_append]
  | case5 c rest other ih => rw [ih, List.filter_cons_of_neg other]

/-- Every word that is found is of one kind. -/
theorem exists_fits_of_mem_searchAfter (taken : Nat) (text : Text) :
    ∀ word ∈ searchAfter taken text, ∃ kind : WordKind, ∃ after, kind.fits word after = true := by
  fun_induction searchAfter taken text with
  | case1 => simp
  | case2 taken c rest ih => exact ih
  | case3 c rest none ih => exact ih
  | case4 c rest n found ih =>
    obtain ⟨kind, length⟩ := exists_kind_longest (c :: rest)
    have fit := (WordKind.fits_of_longest (length.symm.trans found)).1
    exact List.forall_mem_cons.2 ⟨⟨kind, _, fit⟩, ih⟩

/-- A word is not empty, and consists of letters or of digits. -/
theorem letters_or_digits {text word : Text} (listed : word ∈ wordsOf text) :
    word ≠ [] ∧ ((∀ c ∈ word, c.is Char.isAlpha = true) ∨ ∀ c ∈ word, isDigit c = true) := by
  rw [wordsOf_eq_search] at listed
  obtain ⟨kind, after, fit⟩ := exists_fits_of_mem_searchAfter 0 text word listed
  refine ⟨WordKind.ne_nil_of_fits fit, ?_⟩
  obtain ⟨c, rest, rfl⟩ := List.exists_cons_of_ne_nil (WordKind.ne_nil_of_fits fit)
  cases kind with
  | capitals => exact .inl (by simp_all [WordKind.fits, CodePoint.is_isAlpha])
  | small =>
    refine .inl ?_
    simp only [WordKind.fits, Bool.and_eq_true, Bool.or_eq_true, List.all_eq_true] at fit
    refine List.forall_mem_cons.2 ⟨?_, fun d hd => ?_⟩
    · rcases fit.1 with small | capital
      · simp [CodePoint.is_isAlpha, small]
      · simp [CodePoint.is_isAlpha, capital.1]
    · simp [CodePoint.is_isAlpha, fit.2 d hd]
  | digits => exact .inr (by simp_all [WordKind.fits])

section Separator

variable {c : CodePoint} (other : isWordPart c = false)

include other

/-- What belongs to no word belongs together with nothing before it. -/
theorem sameWord_separator (a : CodePoint) (after : Text) : sameWord a c after = false := by
  simp only [isWordPart, Bool.or_eq_false_iff] at other
  simp [sameWord, other]

/-- A separator behind two neighbours is like the end of the text. -/
theorem sameWord_append_separator (a b : CodePoint) (after back : Text) :
    sameWord a b (after ++ c :: back) = sameWord a b after := by
  simp only [isWordPart, Bool.or_eq_false_iff] at other
  cases after with
  | nil => simp [sameWord, other]
  | cons d after => rfl

/-- A separator lets the words before it and those behind it be as they are. -/
theorem wordsOf_append_separator (front back : Text) :
    wordsOf (front ++ c :: back) = wordsOf front ++ wordsOf back := by
  have skipped : wordsOf (c :: back) = wordsOf back := by
    rw [wordsOf.eq_def]
    simp [other]
  fun_induction wordsOf front with
  | case1 => exact skipped
  | case2 d part =>
    rw [List.singleton_append, wordsOf]
    simp [part, sameWord_separator other, skipped]
  | case3 d part next after together ih =>
    have belongs : isWordPart next = true := by
      by_contra apart
      simp [sameWord_separator (Bool.eq_false_iff.2 apart)] at together
    have some : wordsOf (next :: after) ≠ [] := by
      intro none
      have letters := flatten_wordsOf (next :: after)
      rw [none, List.filter_cons_of_pos belongs] at letters
      cases letters
    obtain ⟨word, words, first⟩ := List.exists_cons_of_ne_nil some
    rw [List.cons_append, List.cons_append, wordsOf, if_pos part,
      sameWord_append_separator other, if_pos together, ← List.cons_append, ih, first]
    rfl
  | case4 d part next after apart ih =>
    rw [List.cons_append, List.cons_append, wordsOf, if_pos part,
      sameWord_append_separator other, if_neg apart, ← List.cons_append, ih]
    rfl
  | case5 d rest skip ih =>
    rw [List.cons_append, wordsOf.eq_def]
    simp [skip, ih]

end Separator

/-! ## Words in small letters -/

theorem plain_of_isWordPart {c : CodePoint} (part : isWordPart c = true) : Plain c := by
  simp only [isWordPart, Bool.or_eq_true, CodePoint.is_isUpper_iff,
    CodePoint.is_isLower_iff] at part
  rcases part with (capital | small) | digit
  · exact .inl (by omega)
  · exact .inl (by omega)
  · exact .inr digit

theorem nameWords_eq_map_lower (name : Text) : nameWords name = (wordsOf name).map lower := by
  refine List.map_congr_left fun word listed => (lower_eq_map fun c hc => ?_).symm
  have among : c ∈ (wordsOf name).flatten := List.mem_flatten.2 ⟨word, listed, hc⟩
  rw [flatten_wordsOf] at among
  exact plain_of_isWordPart (List.mem_filter.1 among).2

theorem flatten_nameWords (name : Text) :
    (nameWords name).flatten = lower (name.filter isWordPart) := by
  rw [nameWords, ← List.map_flatten, flatten_wordsOf, lower_eq_map]
  exact fun c hc => plain_of_isWordPart (List.mem_filter.1 hc).2

theorem isLower_mapChar_toLower {c : CodePoint} (letter : c.is Char.isAlpha = true) :
    (c.mapChar Char.toLower).is Char.isLower = true := by
  rw [CodePoint.is_isAlpha, Bool.or_eq_true] at letter
  rw [CodePoint.is_isLower_iff, CodePoint.value_mapChar_toLower]
  split
  · rename_i capital
    rw [CodePoint.is_isUpper_iff] at capital
    omega
  · rename_i other
    exact (CodePoint.is_isLower_iff c).1 (letter.resolve_left other)

/-- The words of an identifier are those that a search from the left finds, in small letters.
Together they are its ASCII letters and its digits in their order; each of them is not empty
and consists of small letters or of digits; and an underscore between two identifiers lets
the words of both be as they are. -/
theorem nameWords_lossless (name : Text) :
    nameWords name = (search name).map lower ∧
      (nameWords name).flatten =
        lower (name.filter fun c => c.is Char.isAlpha || isDigit c) ∧
      (∀ word ∈ nameWords name, word ≠ [] ∧
        ((∀ c ∈ word, c.is Char.isLower = true) ∨ ∀ c ∈ word, isDigit c = true)) ∧
      ∀ a b : Text, nameWords (a ++ .ofChar '_' :: b) = nameWords a ++ nameWords b := by
  refine ⟨?_, ?_, ?_, fun a b => ?_⟩
  · rw [nameWords_eq_map_lower, wordsOf_eq_search]
  · simp only [flatten_nameWords, CodePoint.is_isAlpha]
    rfl
  · intro word listed
    obtain ⟨spelled, among, rfl⟩ := List.mem_map.1 listed
    obtain ⟨some, letters | digits⟩ := letters_or_digits among
    · refine ⟨by simpa using some, .inl (List.forall_mem_map.2 fun c hc => ?_)⟩
      exact isLower_mapChar_toLower (letters c hc)
    · refine ⟨by simpa using some, .inr (List.forall_mem_map.2 fun c hc => ?_)⟩
      have digit := digits c hc
      rwa [mapChar_toLower_of_not_isUpper (by simp [(not_letter_of_isDigit digit).1])]
  · have underscore : isWordPart (.ofChar '_') = false := by decide
    rw [nameWords, wordsOf_append_separator underscore, List.map_append]
    rfl

end ModuleAudit.Text
