import Mathlib.Order.Bounds.Basic
import Mathlib.Order.MinMax
import ModuleAudit.Text.Matching

/-!
# The edit distance counts edits

An edit inserts, deletes or substitutes one code point anywhere in a text, and the
distance of two texts is the least number of edits that lead from one to the other.

Edits in any order are hard to count, so they are brought into the order of the
text: a script goes through both texts once and keeps, substitutes, deletes or
inserts as it goes. A script can be cut wherever its result is, so one more edit
costs at most one more unit. The table of the computation holds the cheapest
scripts between the prefixes of the two texts.
-/

namespace ModuleAudit.Text

/-- One code point is inserted, deleted or substituted. -/
inductive Edit : Text → Text → Prop where
  | insert (front : Text) (d : CodePoint) (back : Text) :
      Edit (front ++ back) (front ++ d :: back)
  | delete (front : Text) (c : CodePoint) (back : Text) :
      Edit (front ++ c :: back) (front ++ back)
  | substitute (front : Text) (c d : CodePoint) (back : Text) :
      Edit (front ++ c :: back) (front ++ d :: back)

/-- A number of edits, one after the other. -/
inductive Edits : Nat → Text → Text → Prop where
  | none (a : Text) : Edits 0 a a
  | step {n : Nat} {a b c : Text} : Edits n a b → Edit b c → Edits (n + 1) a c

/-- Edits in the order of the text, with their number. -/
inductive Script : Nat → Text → Text → Prop where
  | nil : Script 0 [] []
  | keep {n : Nat} {a b : Text} (c : CodePoint) : Script n a b → Script n (c :: a) (c :: b)
  | substitute {n : Nat} {a b : Text} (c d : CodePoint) :
      Script n a b → Script (n + 1) (c :: a) (d :: b)
  | delete {n : Nat} {a b : Text} (c : CodePoint) : Script n a b → Script (n + 1) (c :: a) b
  | insert {n : Nat} {a b : Text} (d : CodePoint) : Script n a b → Script (n + 1) a (d :: b)

/-! ## Edits inside a text -/

theorem Edit.cons {a b : Text} (h : Edit a b) (c : CodePoint) : Edit (c :: a) (c :: b) := by
  cases h with
  | insert front d back => exact .insert (c :: front) d back
  | delete front d back => exact .delete (c :: front) d back
  | substitute front d e back => exact .substitute (c :: front) d e back

theorem Edits.cons {n : Nat} {a b : Text} (h : Edits n a b) (c : CodePoint) :
    Edits n (c :: a) (c :: b) := by
  induction h with
  | none a => exact .none (c :: a)
  | step _ edit ih => exact .step ih (edit.cons c)

/-- A script is carried out edit by edit. -/
theorem Script.edits {n : Nat} {a b : Text} (h : Script n a b) : Edits n a b := by
  induction h with
  | nil => exact .none []
  | keep c _ ih => exact ih.cons c
  | substitute c d _ ih => exact .step (ih.cons c) (.substitute [] c d _)
  | delete c _ ih => exact .step (ih.cons c) (.delete [] c _)
  | insert d _ ih => exact .step ih (.insert [] d _)

/-! ## Scripts joined and cut -/

namespace Script

theorem refl (a : Text) : Script 0 a a := by
  induction a with
  | nil => exact .nil
  | cons c a ih => exact .keep c ih

theorem append {m n : Nat} {a b a' b' : Text} (first : Script m a b) (second : Script n a' b') :
    Script (m + n) (a ++ a') (b ++ b') := by
  induction first with
  | nil => simpa using second
  | keep c _ ih => exact .keep c ih
  | substitute c d _ ih => rw [Nat.add_right_comm]; exact .substitute c d ih
  | delete c _ ih => rw [Nat.add_right_comm]; exact .delete c ih
  | insert d _ ih => rw [Nat.add_right_comm]; exact .insert d ih

theorem reverse {n : Nat} {a b : Text} (h : Script n a b) : Script n a.reverse b.reverse := by
  induction h with
  | nil => exact .nil
  | keep c _ ih => simpa using ih.append (refl [c])
  | substitute c d _ ih => simpa using ih.append (.substitute c d .nil)
  | delete c _ ih => simpa using ih.append (.delete c .nil)
  | insert d _ ih => simpa using ih.append (.insert d .nil)

/-- A script can be cut behind the first code point of its result. -/
theorem exists_cons {n : Nat} {a b : Text} {d : CodePoint} (h : Script n a (d :: b)) :
    ∃ m m' s s', m + m' = n ∧ s ++ s' = a ∧ Script m s [d] ∧ Script m' s' b := by
  generalize whole : d :: b = t at h
  induction h with
  | nil => cases whole
  | @keep n a t c rest _ =>
    obtain ⟨rfl, rfl⟩ := List.cons.inj whole
    exact ⟨0, n, [d], a, Nat.zero_add n, rfl, refl [d], rest⟩
  | @substitute n a t c e rest _ =>
    obtain ⟨rfl, rfl⟩ := List.cons.inj whole
    exact ⟨1, n, [c], a, Nat.add_comm 1 n, rfl, .substitute c d .nil, rest⟩
  | delete c _ ih =>
    obtain ⟨m, m', s, s', rfl, rfl, first, second⟩ := ih whole
    exact ⟨m + 1, m', c :: s, s', by omega, rfl, .delete c first, second⟩
  | @insert n a t e rest _ =>
    obtain ⟨rfl, rfl⟩ := List.cons.inj whole
    exact ⟨1, n, [], a, Nat.add_comm 1 n, rfl, .insert d .nil, rest⟩

/-- A script can be cut wherever its result is. -/
theorem exists_append {n : Nat} {a b b' : Text} (h : Script n a (b ++ b')) :
    ∃ m m' s s', m + m' = n ∧ s ++ s' = a ∧ Script m s b ∧ Script m' s' b' := by
  induction b generalizing n a with
  | nil => exact ⟨0, n, [], a, Nat.zero_add n, rfl, .nil, h⟩
  | cons d b ih =>
    obtain ⟨k, _, s, _, rfl, rfl, single, rest⟩ := exists_cons h
    obtain ⟨m, m', s', s'', rfl, rfl, first, second⟩ := ih rest
    exact ⟨k + m, m', s ++ s', s'', by omega, List.append_assoc .., single.append first, second⟩

theorem length_le {n : Nat} {a b : Text} (h : Script n a b) :
    a.length ≤ b.length + n ∧ b.length ≤ a.length + n := by
  induction h with
  | nil => exact ⟨Nat.le_refl 0, Nat.le_refl 0⟩
  | keep | substitute | delete | insert =>
    simp only [List.length_cons]
    omega

theorem clear (a : Text) : Script a.length a [] := by
  induction a with
  | nil => exact .nil
  | cons c a ih => exact .delete c ih

theorem write (b : Text) : Script b.length [] b := by
  induction b with
  | nil => exact .nil
  | cons d b ih => exact .insert d ih

/-- What became one code point can become any other one for one more edit. -/
theorem exists_single {n : Nat} {a : Text} {c : CodePoint} (h : Script n a [c])
    (d : CodePoint) : ∃ m ≤ n + 1, Script m a [d] := by
  cases a with
  | nil => exact ⟨1, by omega, write [d]⟩
  | cons e a =>
    have short := h.length_le.1
    simp only [List.length_cons, List.length_nil] at short
    exact ⟨a.length + 1, by omega, .substitute e d (clear a)⟩

/-- One more edit costs at most one more unit. -/
theorem exists_edit {n : Nat} {a b b' : Text} (h : Script n a b) (edit : Edit b b') :
    ∃ m ≤ n + 1, Script m a b' := by
  cases edit with
  | insert front d back =>
    obtain ⟨m, m', s, s', rfl, rfl, first, second⟩ := exists_append h
    exact ⟨m + (m' + 1), by omega, first.append (.insert d second)⟩
  | delete front c back =>
    obtain ⟨m, _, s, _, rfl, rfl, first, rest⟩ := exists_append h
    obtain ⟨k, m', s', s'', rfl, rfl, single, second⟩ := exists_cons rest
    have short := single.length_le.1
    simp only [List.length_cons, List.length_nil] at short
    exact ⟨m + (s'.length + m'), by omega, first.append ((clear s').append second)⟩
  | substitute front c d back =>
    obtain ⟨m, _, s, _, rfl, rfl, first, rest⟩ := exists_append h
    obtain ⟨k, m', s', s'', rfl, rfl, single, second⟩ := exists_cons rest
    obtain ⟨k', least, single⟩ := single.exists_single d
    exact ⟨m + (k' + m'), by omega, first.append (single.append second)⟩

/-- Edits in any order are at least as many as those of some script. -/
theorem exists_of_edits {n : Nat} {a b : Text} (h : Edits n a b) : ∃ m ≤ n, Script m a b := by
  induction h with
  | none a => exact ⟨0, Nat.le_refl 0, refl a⟩
  | step _ edit ih =>
    obtain ⟨m, least, script⟩ := ih
    obtain ⟨m', more, script⟩ := script.exists_edit edit
    exact ⟨m', by omega, script⟩

end Script

/-! ## The table of distances -/

/-- The number of edits of the cheapest script. -/
def Cost (a b : Text) (n : Nat) : Prop := IsLeast {m | Script m a b} n

namespace Cost

theorem write (b : Text) : Cost [] b b.length := by
  refine ⟨Script.write b, fun n (h : Script n [] b) => ?_⟩
  simpa using h.length_le.2

theorem clear (a : Text) : Cost a [] a.length := by
  refine ⟨Script.clear a, fun n (h : Script n a []) => ?_⟩
  simpa using h.length_le.1

/-- What a script can do with the last code points of both texts. -/
theorem cases_concat {n : Nat} {a b : Text} {c d : CodePoint}
    (h : Script n (a ++ [c]) (b ++ [d])) :
    (c = d ∧ Script n a b) ∨ ∃ m, m + 1 = n ∧
      (Script m a b ∨ Script m a (b ++ [d]) ∨ Script m (a ++ [c]) b) := by
  have turned := h.reverse
  rw [List.reverse_concat, List.reverse_concat] at turned
  cases turned with
  | keep _ rest => exact .inl ⟨rfl, by simpa using rest.reverse⟩
  | substitute _ _ rest => exact .inr ⟨_, rfl, .inl (by simpa using rest.reverse)⟩
  | delete _ rest => exact .inr ⟨_, rfl, .inr (.inl (by simpa using rest.reverse))⟩
  | insert _ rest => exact .inr ⟨_, rfl, .inr (.inr (by simpa using rest.reverse))⟩

/-- An entry of the table from those beside it. -/
theorem concat {a b : Text} {c d : CodePoint} {diagonal up left : Nat}
    (hdiagonal : Cost a b diagonal) (hup : Cost a (b ++ [d]) up) (hleft : Cost (a ++ [c]) b left) :
    Cost (a ++ [c]) (b ++ [d])
      (min (if c = d then diagonal else diagonal + 1) (min (up + 1) (left + 1))) := by
  have diagonal' : Script (if c = d then diagonal else diagonal + 1) (a ++ [c]) (b ++ [d]) := by
    split
    · rename_i same
      rw [same]
      exact hdiagonal.1.append (.refl [d])
    · exact hdiagonal.1.append (.substitute c d .nil)
  have up' : Script (up + 1) (a ++ [c]) (b ++ [d]) := by
    simpa using hup.1.append (.delete c .nil)
  have left' : Script (left + 1) (a ++ [c]) (b ++ [d]) := by
    simpa using hleft.1.append (.insert d .nil)
  constructor
  · rcases min_choice (if c = d then diagonal else diagonal + 1) (min (up + 1) (left + 1)) with
      least | least
    · rw [least]; exact diagonal'
    · rw [least]
      rcases min_choice (up + 1) (left + 1) with least | least
      · rw [least]; exact up'
      · rw [least]; exact left'
  · intro n h
    rcases cases_concat h with ⟨same, rest⟩ | ⟨m, rfl, rest | rest | rest⟩
    · have := hdiagonal.2 rest
      rw [if_pos same]
      omega
    · have := hdiagonal.2 rest
      split <;> omega
    · have := hup.2 rest
      omega
    · have := hleft.2 rest
      omega

end Cost

/-- A row of the table: the costs from a text to another one that has been reached
and to its continuations. -/
inductive Row (a : Text) : Text → Text → List Nat → Prop where
  | last {b : Text} {n : Nat} : Cost a b n → Row a b [] [n]
  | more {b : Text} {d : CodePoint} {ds : Text} {n : Nat} {row : List Nat} :
      Cost a b n → Row a (b ++ [d]) ds row → Row a b (d :: ds) (n :: row)

namespace Row

/-- The row of the empty text. -/
theorem write (b ds : Text) : Row [] b ds (List.range' b.length (ds.length + 1)) := by
  induction ds generalizing b with
  | nil => exact .last (Cost.write b)
  | cons d ds ih =>
    have rest := ih (b ++ [d])
    rw [List.length_append, List.length_singleton] at rest
    exact .more (Cost.write b) rest

theorem exists_cons {a b ds : Text} {row : List Nat} (h : Row a b ds row) :
    ∃ n rest, row = n :: rest ∧ Cost a b n := by
  cases h with
  | last cost => exact ⟨_, _, rfl, cost⟩
  | more cost _ => exact ⟨_, _, rfl, cost⟩

theorem getLastD {a b ds : Text} {row : List Nat} (h : Row a b ds row) :
    Cost a (b ++ ds) (row.getLastD 0) := by
  induction h with
  | last cost => simpa using cost
  | @more b d ds n row _ rest ih =>
    obtain ⟨m, row, rfl, -⟩ := rest.exists_cons
    simpa using ih

/-- The row of a text is computed from the row of the text without its last code
point. -/
theorem next {a b ds : Text} {c : CodePoint} {left : Nat} {above : List Nat}
    (row : Row a b ds above) (cost : Cost (a ++ [c]) b left) :
    Row (a ++ [c]) b ds (left :: nextRow c left ds above) := by
  induction ds generalizing b left above with
  | nil => exact .last cost
  | cons d ds ih =>
    cases row with
    | more diagonal rest =>
      obtain ⟨up, ups, rfl, hup⟩ := rest.exists_cons
      exact .more cost (ih rest (diagonal.concat hup cost))

theorem lastRow {a source target : Text} {row : List Nat} (h : Row a [] target row) :
    Row (a ++ source) [] target (Text.lastRow target source row) := by
  induction source generalizing a row with
  | nil =>
    rw [List.append_nil]
    exact h
  | cons c source ih =>
    obtain ⟨n, rest, rfl, cost⟩ := h.exists_cons
    have first : Cost (a ++ [c]) [] (n + 1) := by
      have same : n = a.length := cost.unique (Cost.clear a)
      simpa [same] using Cost.clear (a ++ [c])
    have followed := ih (h.next first)
    rw [List.append_assoc] at followed
    exact followed

end Row

theorem cost_distance (a b : Text) : Cost a b (distance a b) := by
  have start : Row [] [] b (List.range (b.length + 1)) := by
    rw [List.range_eq_range']
    exact Row.write [] b
  exact (start.lastRow (a := []) : Row ([] ++ a) [] b _).getLastD

/-- The distance is the least number of edits from one text to the other. -/
theorem isLeast_distance (a b : Text) : IsLeast {n | Edits n a b} (distance a b) := by
  obtain ⟨script, least⟩ := cost_distance a b
  refine ⟨Script.edits script, fun n edits => ?_⟩
  obtain ⟨m, fewer, script⟩ := Script.exists_of_edits edits
  exact (least script).trans fewer

theorem distance_le_iff {a b : Text} {n : Nat} :
    distance a b ≤ n ↔ ∃ m ≤ n, Edits m a b := by
  obtain ⟨edits, least⟩ := isLeast_distance a b
  constructor
  · intro near
    exact ⟨distance a b, near, edits⟩
  · rintro ⟨m, near, edits⟩
    exact (least edits).trans near

example : distance "kitten" "sitting" = 3 := by decide

end ModuleAudit.Text
