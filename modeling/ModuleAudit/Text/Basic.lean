/-!
# Texts

A text is a list of Unicode code points. The surrogates are among them, which no
character is: a JSON escape can name one that has no partner, and two names that
differ only there are different names. Whatever is counted, cut or compared in a
text is counted, cut or compared by code points.

Texts are ordered by the first code point in which they differ. The order is
stated for lists over any comparison, since lists of texts are ordered in the
same way.
-/

namespace ModuleAudit

@[ext] structure CodePoint where
  value : Nat
  value_lt : value < 0x110000
deriving DecidableEq, Repr

namespace CodePoint

def ofChar (c : Char) : CodePoint where
  value := c.toNat
  value_lt := by
    rcases c.valid with h | h
    · exact Nat.lt_trans h (by decide)
    · exact h.2

instance : Coe Char CodePoint := ⟨ofChar⟩

/-- The code point with a number, or the last one if the number is too large. -/
def ofNat (n : Nat) : CodePoint := ⟨min n 0x10FFFF, by omega⟩

/-- Whether a code point is a surrogate, for which there is no character. -/
def isSurrogate (c : CodePoint) : Bool := 0xD800 ≤ c.value && c.value < 0xE000

/-- The character that a code point is, if it is one. -/
def char? (c : CodePoint) : Option Char :=
  if c.isSurrogate then none else some (Char.ofNat c.value)

/-- Whether a code point is a character with a property. -/
def is (property : Char → Bool) (c : CodePoint) : Bool := c.char?.any property

/-- Replace a character by another; a surrogate stays. -/
def mapChar (f : Char → Char) (c : CodePoint) : CodePoint :=
  match c.char? with
  | some d => ofChar (f d)
  | none => c

def before (a b : CodePoint) : Bool := a.value < b.value

@[simp] theorem value_ofChar (c : Char) : (ofChar c).value = c.toNat := rfl

@[simp] theorem isSurrogate_ofChar (c : Char) : (ofChar c).isSurrogate = false := by
  have valid : c.toNat < 0xD800 ∨ 0xDFFF < c.toNat :=
    c.valid.imp id fun h => h.1
  rw [isSurrogate, Bool.and_eq_false_imp]
  intro h
  have := of_decide_eq_true h
  exact decide_eq_false (by rw [value_ofChar] at *; omega)

/-- A character can be read off its code point. -/
@[simp] theorem char?_ofChar (c : Char) : (ofChar c).char? = some c := by
  simp [char?]

@[simp] theorem is_ofChar (property : Char → Bool) (c : Char) :
    is property (ofChar c) = property c := by
  simp [is]

end CodePoint

/-- Whether a list comes before another: where they first differ it has the
smaller element, or it ends there. -/
def listBefore {α : Type} [DecidableEq α] (before : α → α → Bool) : List α → List α → Bool
  | _, [] => false
  | [], _ :: _ => true
  | a :: as, b :: bs => before a b || (a = b && listBefore before as bs)

abbrev Text := List CodePoint

/-- A text that is there and not empty. -/
def given (text : Option Text) : Option Text := text.filter fun t => !t.isEmpty

namespace Text

/-- The text of a string, which has no surrogates. -/
def ofString (s : String) : Text := s.toList.map .ofChar

instance : Coe String Text := ⟨ofString⟩

/-- The string that a text is, if it has no surrogates. -/
def string? (text : Text) : Option String := (text.mapM CodePoint.char?).map String.ofList

/-- A string can be read off its text. -/
@[simp] theorem string?_ofString (s : String) : string? (ofString s) = some s := by
  have read (cs : List Char) : (cs.map CodePoint.ofChar).mapM CodePoint.char? = some cs := by
    induction cs with
    | nil => rfl
    | cons c cs ih => simp [ih]
  simp [string?, ofString, read]

/-- Different strings are different texts. -/
@[simp] theorem ofString_inj {s t : String} : ofString s = ofString t ↔ s = t := by
  constructor
  · intro same
    rw [← Option.some_inj, ← string?_ofString, ← string?_ofString, same]
  · rintro rfl
    rfl

def before (a b : Text) : Bool := listBefore CodePoint.before a b

def atMost (a b : Text) : Bool := !before b a

def sort (texts : List Text) : List Text := texts.mergeSort atMost

/-- A class of characters, as closed ranges of code points. -/
abbrev Ranges := List (Nat × Nat)

def Ranges.contains (ranges : Ranges) (c : CodePoint) : Bool :=
  ranges.any fun r => r.1 ≤ c.value && c.value ≤ r.2

end Text

end ModuleAudit
