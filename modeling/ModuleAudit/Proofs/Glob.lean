import Mathlib.Computability.Language
import ModuleAudit.Text.Matching

/-!
# What a pattern matches

A pattern is read as a regular expression: its code points are put in a row, `*` as a
run of any code points, `?` as any one of them, and each other code point as itself,
whatever it may mean elsewhere. The texts that a pattern matches are the language of
this expression, which is the product of the languages of its code points.

Membership in a product is a cut of the text. From the cuts follows what a pattern
does that is put together from two, and that one without wildcards matches nothing
but itself.
-/

namespace ModuleAudit.Glob

open Computability

def anyone : Language CodePoint := {text | ∃ c, text = [c]}

def symbol (p : CodePoint) : Language CodePoint :=
  if p = '*' then anyone∗ else if p = '?' then anyone else {[p]}

/-- The texts that a pattern stands for as a whole. -/
def language (pattern : Text) : Language CodePoint := (pattern.map symbol).prod

/-- What one code point of a pattern takes of a text: `*` any piece, `?` exactly one code
point, and any other code point itself. -/
inductive Takes : CodePoint → Text → Prop
  | run (piece : Text) : Takes '*' piece
  | one (c : CodePoint) : Takes '?' [c]
  | itself {p : CodePoint} (run : p ≠ '*') (one : p ≠ '?') : Takes p [p]

/-! ## The language of a pattern -/

/-- A run of code points may be any text. -/
theorem mem_kstar_anyone (text : Text) : text ∈ anyone∗ := by
  rw [Language.mem_kstar]
  refine ⟨text.map fun c => [c], ?_, ?_⟩
  · induction text with
    | nil => rfl
    | cons c rest ih => rw [List.map_cons, List.flatten_cons, ← ih]; rfl
  · intro piece listed
    obtain ⟨c, -, rfl⟩ := List.mem_map.1 listed
    exact ⟨c, rfl⟩

theorem mem_symbol_iff (p : CodePoint) (piece : Text) : piece ∈ symbol p ↔ Takes p piece := by
  constructor
  · intro member
    rw [symbol] at member
    split_ifs at member with run one
    · subst run
      exact .run piece
    · obtain ⟨c, rfl⟩ := member
      subst one
      exact .one c
    · obtain rfl : piece = [p] := member
      exact .itself run one
  · intro takes
    cases takes with
    | run piece => exact mem_kstar_anyone piece
    | one c => exact ⟨c, rfl⟩
    | itself run one =>
      rw [symbol, if_neg run, if_neg one]
      exact Set.mem_singleton _

theorem language_cons (p : CodePoint) (ps : Text) :
    language (p :: ps) = symbol p * language ps := by
  rw [language, List.map_cons, List.prod_cons, language]

theorem language_append (front back : Text) :
    language (front ++ back) = language front * language back := by
  rw [language, List.map_append, List.prod_append, language, language]

/-- A text is in the language of a pattern when it can be cut into pieces, one for each
code point of the pattern. -/
theorem mem_language_iff_pieces (pattern text : Text) :
    text ∈ language pattern ↔
      ∃ pieces : List Text, List.Forall₂ Takes pattern pieces ∧ pieces.flatten = text := by
  induction pattern generalizing text with
  | nil =>
    constructor
    · intro member
      exact ⟨[], .nil, ((Language.mem_one text).1 member).symm⟩
    · rintro ⟨pieces, taken, rfl⟩
      cases taken
      exact Language.nil_mem_one
  | cons p ps ih =>
    rw [language_cons, Language.mem_mul]
    constructor
    · rintro ⟨piece, first, rest, later, rfl⟩
      obtain ⟨pieces, taken, rfl⟩ := (ih rest).1 later
      exact ⟨piece :: pieces, .cons ((mem_symbol_iff p piece).1 first) taken, rfl⟩
    · rintro ⟨pieces, taken, rfl⟩
      cases taken with
      | @cons _ piece _ pieces first taken =>
        exact ⟨piece, (mem_symbol_iff p piece).2 first, pieces.flatten,
          (ih _).2 ⟨pieces, taken, rfl⟩, rfl⟩

/-! ## Matching decides the language -/

theorem anyEnd_iff (test : Text → Bool) (text : Text) :
    anyEnd test text = true ↔ ∃ front back, front ++ back = text ∧ test back = true := by
  induction text with
  | nil => simp [anyEnd]
  | cons c rest ih =>
    rw [anyEnd, Bool.or_eq_true, ih]
    constructor
    · rintro (here | ⟨front, back, rfl, later⟩)
      · exact ⟨[], c :: rest, rfl, here⟩
      · exact ⟨c :: front, back, rfl, later⟩
    · rintro ⟨front, back, cut, found⟩
      cases front with
      | nil =>
        obtain rfl : back = c :: rest := cut
        exact .inl found
      | cons d front => exact .inr ⟨front, back, (List.cons.inj cut).2, found⟩

/-- A pattern takes a piece for its first code point and matches the others with what
remains. -/
theorem isMatch_cons_iff (p : CodePoint) (ps text : Text) :
    isMatch (p :: ps) text = true ↔
      ∃ piece rest, Takes p piece ∧ isMatch ps rest = true ∧ piece ++ rest = text := by
  change fullMatch (Part.of p :: compile ps) text = true ↔ _
  rw [Part.of]
  split_ifs with run one
  · subst run
    change anyEnd (isMatch ps) text = true ↔ _
    rw [anyEnd_iff]
    constructor
    · rintro ⟨piece, rest, cut, later⟩
      exact ⟨piece, rest, .run piece, later, cut⟩
    · rintro ⟨piece, rest, -, later, cut⟩
      exact ⟨piece, rest, cut, later⟩
  · subst one
    constructor
    · intro matched
      cases text with
      | nil => cases matched
      | cons c rest => exact ⟨[c], rest, .one c, matched, rfl⟩
    · rintro ⟨piece, rest, takes, later, rfl⟩
      cases takes with
      | one c => exact later
      | itself _ one => exact absurd rfl one
  · constructor
    · intro matched
      cases text with
      | nil => cases matched
      | cons c rest =>
        obtain ⟨here, later⟩ := Bool.and_eq_true_iff.1 matched
        obtain rfl : p = c := of_decide_eq_true here
        exact ⟨[p], rest, .itself run one, later, rfl⟩
    · rintro ⟨piece, rest, takes, later, rfl⟩
      cases takes with
      | run piece => exact absurd rfl run
      | one c => exact absurd rfl one
      | itself run one => exact Bool.and_eq_true_iff.2 ⟨decide_eq_true rfl, later⟩

theorem isMatch_iff_mem_language (pattern text : Text) :
    isMatch pattern text = true ↔ text ∈ language pattern := by
  induction pattern generalizing text with
  | nil => exact List.isEmpty_iff
  | cons p ps ih =>
    simp only [isMatch_cons_iff, language_cons, Language.mem_mul, mem_symbol_iff, ih]
    constructor
    · rintro ⟨piece, rest, takes, later, cut⟩
      exact ⟨piece, takes, rest, later, cut⟩
    · rintro ⟨piece, takes, rest, later, cut⟩
      exact ⟨piece, rest, takes, later, cut⟩

/-- A pattern without wildcards matches itself and nothing else. -/
theorem isMatch_iff_eq_of_plain {pattern : Text} (plain : ∀ p ∈ pattern, p ≠ '*' ∧ p ≠ '?')
    (text : Text) : isMatch pattern text = true ↔ text = pattern := by
  induction pattern generalizing text with
  | nil => exact List.isEmpty_iff
  | cons p ps ih =>
    obtain ⟨⟨run, one⟩, later⟩ := List.forall_mem_cons.1 plain
    simp only [isMatch_cons_iff, ih later]
    constructor
    · rintro ⟨piece, rest, takes, rfl, rfl⟩
      cases takes with
      | run => exact absurd rfl run
      | one => exact absurd rfl one
      | itself => rfl
    · rintro rfl
      exact ⟨[p], ps, .itself run one, rfl, rfl⟩

/-- A pattern matches a text exactly when the text can be cut into pieces, one for each
code point of the pattern, that is, when the text is in the language of the pattern as a
regular expression. Hence two patterns put together match what one of them matches
followed by what the other one does, and a pattern without wildcards matches only
itself. -/
theorem matches_by_pieces (p q text : Text) :
    (isMatch p text = true ↔
      ∃ pieces : List Text, List.Forall₂ Takes p pieces ∧ pieces.flatten = text) ∧
    (isMatch p text = true ↔ text ∈ language p) ∧
    (isMatch (p ++ q) text = true ↔
      ∃ front back, isMatch p front = true ∧ isMatch q back = true ∧ front ++ back = text) ∧
    ((∀ c ∈ p, c ≠ '*' ∧ c ≠ '?') → (isMatch p text = true ↔ text = p)) := by
  refine ⟨?_, isMatch_iff_mem_language p text, ?_, fun plain => isMatch_iff_eq_of_plain plain text⟩
  · rw [isMatch_iff_mem_language, mem_language_iff_pieces]
  · simp only [isMatch_iff_mem_language, language_append, Language.mem_mul]
    constructor
    · rintro ⟨front, before, back, behind, cut⟩
      exact ⟨front, back, before, behind, cut⟩
    · rintro ⟨front, back, before, behind, cut⟩
      exact ⟨front, before, back, behind, cut⟩

/-- What means something in other patterns stands for itself, and a line end is a code
point like any other. -/
theorem matches_by_pieces_metacharacters :
    let p : Text := "^(a|b)+.[c]$"
    let q : Text := "?*\n"
    (∀ c ∈ p, c ≠ '*' ∧ c ≠ '?') ∧ isMatch p "^(a|b)+.[c]$" = true ∧ isMatch p "ab.c" = false ∧
      ∃ front back, isMatch p front = true ∧ isMatch q back = true ∧
        front ++ back = Text.ofString "^(a|b)+.[c]$\n\n" := by
  intro p q
  have plain : ∀ c ∈ p, c ≠ '*' ∧ c ≠ '?' := by decide
  obtain ⟨-, -, joined, -⟩ := matches_by_pieces p q "^(a|b)+.[c]$\n\n"
  have other := (matches_by_pieces p q "ab.c").2.2.2 plain
  refine ⟨plain, ?_, ?_, joined.1 (by decide)⟩
  · exact ((matches_by_pieces p q p).2.2.2 plain).2 rfl
  · rw [Bool.eq_false_iff]
    exact fun matched => absurd (other.1 matched) (by decide)

end ModuleAudit.Glob
