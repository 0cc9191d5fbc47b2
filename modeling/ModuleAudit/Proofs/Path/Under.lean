import Mathlib.Data.List.TakeWhile
import ModuleAudit.Proofs.Path.Segments

/-!
# Paths under a directory

How the operations on paths act on a path that continues a directory: the parent,
the join, the normal form and the extension leave the directory in front alone.
The directory is one in normal form below the root, so it ends with a name; at the
root itself a continued path would begin with two slashes, which a normal form
does not keep.
-/

namespace ModuleAudit.Path

def under (directory path : Text) : Text := directory ++ slash :: path

/-- A directory read under another one; the empty one is that directory itself. -/
def folder (directory inner : Text) : Text :=
  if inner.isEmpty then directory else under directory inner

theorem under_injective (directory : Text) : Function.Injective (under directory) := by
  intro a b same
  exact List.tail_eq_of_cons_eq (List.append_cancel_left same)

/-- A path under one directory, moved to another one. -/
def moved (source target path : Text) : Text := target ++ path.drop source.length

theorem moved_under (source target path : Text) :
    moved source target (under source path) = under target path := by
  simp [moved, under]

theorem under_ne_self (directory path : Text) : under directory path ≠ directory := by
  intro same
  have lengths := congrArg List.length same
  simp [under] at lengths

theorem reverse_under (directory path : Text) :
    (under directory path).reverse = path.reverse ++ slash :: directory.reverse := by
  simp [under]

/-- An absolute directory in normal form that is not the root. -/
structure BelowRoot (directory : Text) : Prop where
  absolute : isAbsolute directory = true
  normal : normalize directory = directory
  named : ∃ c ∈ directory, c ≠ slash

instance (directory : Text) : Decidable (BelowRoot directory) :=
  decidable_of_iff
    (isAbsolute directory = true ∧ normalize directory = directory ∧ ∃ c ∈ directory, c ≠ slash)
    ⟨fun h => ⟨h.1, h.2.1, h.2.2⟩, fun h => ⟨h.absolute, h.normal, h.named⟩⟩

/-! ## The root -/

/-- What follows a name has no part in the leading slashes. -/
theorem root_append {front : Text} (named : ∃ c ∈ front, c ≠ slash) (back : Text) :
    root (front ++ back) = root front := by
  have ends : (front.takeWhile fun c => c = slash).length ≠ front.length := by
    intro whole
    obtain ⟨c, hc, other⟩ := named
    have all : front.takeWhile (fun c => c = slash) = front :=
      (List.takeWhile_prefix _).eq_of_length whole
    exact other (of_decide_eq_true (List.takeWhile_eq_self_iff.1 all c hc))
  rw [root, List.takeWhile_append, if_neg ends, root]

theorem mem_root {path : Text} {c : CodePoint} (hc : c ∈ root path) : c = slash := by
  unfold root at hc
  split at hc <;> simp_all

theorem root_ne_nil {path : Text} (absolute : isAbsolute path = true) : root path ≠ [] := by
  obtain ⟨rest, rfl⟩ := isAbsolute_iff.1 absolute
  unfold root
  split
  · rename_i none
    simp at none
  · exact List.cons_ne_nil _ _
  · exact List.cons_ne_nil _ _

/-! ## Normal forms -/

theorem normalize_of_absolute {path : Text} (absolute : isAbsolute path = true) :
    normalize path = root path ++ joinSegments (reduce true (segments path)) := by
  have rooted : root path ≠ [] := root_ne_nil absolute
  have absolute : (!(root path).isEmpty) = true := by simpa using rooted
  have nonempty : (root path ++ joinSegments (reduce true (segments path))).isEmpty = false := by
    simp [rooted]
  simp only [normalize, absolute, nonempty, Bool.false_eq_true, if_false]

namespace BelowRoot

variable {directory : Text} (h : BelowRoot directory)

include h

theorem eq_root_append :
    root directory ++ joinSegments (reduce true (segments directory)) = directory := by
  rw [← normalize_of_absolute h.absolute, h.normal]

theorem reduce_ne_nil : reduce true (segments directory) ≠ [] := by
  intro empty
  obtain ⟨c, hc, other⟩ := h.named
  have rooted : root directory = directory := by
    simpa [empty, joinSegments] using h.eq_root_append
  rw [← rooted] at hc
  exact other (mem_root hc)

theorem endsWithName : EndsWithName directory := by
  have names := names_reduce_of_absolute fun s (hs : s ∈ segments directory) =>
    slash_not_mem_of_mem_segments hs
  rw [← h.eq_root_append]
  exact (endsWithName_joinSegments h.reduce_ne_nil fun s hs => (names s hs).isPart).append _

/-- A path that never climbs above the directory has its own normal form under
it. -/
theorem normalize_under {path : Text} (stays : staysWithin 0 (segments path) = true) :
    normalize (under directory path) =
      folder directory (joinSegments (reduce false (segments path))) := by
  have whole : ∀ s ∈ segments path, slash ∉ s := fun s hs => slash_not_mem_of_mem_segments hs
  have names := names_reduce_of_staysWithin whole stays
  have absolute : isAbsolute (under directory path) = true := by
    obtain ⟨rest, rfl⟩ := isAbsolute_iff.1 h.absolute
    rfl
  have spelled : normalize (under directory path) =
      directory ++ (reduce false (segments path)).flatMap (slash :: ·) := by
    rw [normalize_of_absolute absolute, under, root_append h.named, segments_append_slash,
      reduce_append_of_staysWithin whole stays, joinSegments_append h.reduce_ne_nil,
      ← List.append_assoc, h.eq_root_append]
  rw [spelled]
  cases inner : reduce false (segments path) with
  | nil => simp [folder, joinSegments]
  | cons first rest =>
    have nonempty : joinSegments (first :: rest) ≠ [] := fun empty =>
      absurd ((joinSegments_eq_nil_iff (inner ▸ names)).1 empty) (List.cons_ne_nil _ _)
    simp only [folder, List.isEmpty_iff, nonempty, if_false]
    rw [under, joinSegments_cons, List.flatMap_cons, List.cons_append]

end BelowRoot

/-! ## Joins and parents -/

theorem join_folder {directory path : Text} (named : EndsWithName directory)
    (relative : isAbsolute path = false) (inner : Text) :
    join (folder directory inner) path = under directory (join inner path) := by
  cases inner with
  | nil =>
    obtain ⟨front, last, rfl, other⟩ := named
    simp [join, folder, under, relative, other]
  | cons c inner =>
    have last : (under directory (c :: inner)).getLast? = (c :: inner).getLast? := by
      simp [under, List.getLast?_cons]
    have nonempty : (under directory (c :: inner)).isEmpty = false := by simp [under]
    simp only [join, folder, relative, last, nonempty, List.isEmpty_cons, Bool.false_eq_true,
      if_false, Bool.false_or]
    split <;> simp [under]

theorem join_of_endsWithName {directory path : Text} (named : EndsWithName directory)
    (relative : isAbsolute path = false) : join directory path = under directory path := by
  have alone : join [] path = path := by simp [join, relative]
  have joined := join_folder named relative []
  rw [alone] at joined
  exact joined

def front (path : Text) : Text := (path.reverse.dropWhile fun c => c ≠ slash).reverse

theorem front_under (directory path : Text) :
    front (under directory path) = under directory (front path) := by
  rw [front, reverse_under, List.dropWhile_append]
  split
  · rename_i none
    rw [front, List.isEmpty_iff.1 none]
    simp [under]
  · simp [front, under]

theorem trimSlashes_under {directory : Text} (named : EndsWithName directory) (path : Text) :
    trimSlashes (under directory path) = folder directory (trimSlashes path) := by
  obtain ⟨before, last, rfl, other⟩ := named
  rw [trimSlashes, reverse_under, List.dropWhile_append]
  split
  · rename_i none
    rw [trimSlashes, List.isEmpty_iff.1 none]
    simp [folder, other]
  · rename_i some
    rw [folder, trimSlashes, List.isEmpty_reverse, if_neg some]
    simp [under]

theorem parent_of_relative {path : Text} (relative : isAbsolute path = false) :
    parent path = trimSlashes (front path) := by
  change (if (front path).all fun c => c = slash then front path else trimSlashes (front path)) = _
  split
  · rename_i slashes
    have start : front path <+: path :=
      List.reverse_suffix.1 (by simpa [front] using List.dropWhile_suffix _)
    cases begins : front path with
    | nil => rfl
    | cons c rest =>
      rw [begins, List.all_cons, Bool.and_eq_true, decide_eq_true_eq] at slashes
      obtain ⟨back, rfl⟩ := begins ▸ start
      rw [slashes.1] at relative
      cases relative
  · rfl

theorem parent_under {directory path : Text} (named : EndsWithName directory)
    (relative : isAbsolute path = false) :
    parent (under directory path) = folder directory (parent path) := by
  have kept : ((under directory (front path)).all fun c => c = slash) = false := by
    obtain ⟨before, last, rfl, other⟩ := named
    simp [under, other]
  rw [parent_of_relative relative, ← trimSlashes_under named, ← front_under]
  rw [← front_under] at kept
  exact if_neg (Bool.eq_false_iff.1 kept)

/-! ## Extensions -/

@[simp] theorem base_under (directory path : Text) : base (under directory path) = base path := by
  rw [base, reverse_under, List.takeWhile_append]
  split
  · rename_i whole
    have all : path.reverse.takeWhile (fun c => c ≠ slash) = path.reverse :=
      (List.takeWhile_prefix _).eq_of_length whole
    rw [base, all]
    simp
  · rfl

@[simp] theorem extension_under (directory path : Text) :
    extension (under directory path) = extension path := by
  simp only [extension, base_under]

/-- An extension ends the last component, and before it there is more than dots. -/
theorem exists_base_eq_append {path : Text} (extended : extension path ≠ []) :
    ∃ name, base path = name ++ extension path ∧ ∃ c ∈ name, c ≠ dot := by
  unfold extension at extended ⊢
  dsimp only at extended ⊢
  split at extended
  · rename_i c before rest
    split at extended
    · rename_i more
      have first : c = dot := by
        have head := List.head?_dropWhile_not (fun c => decide (c ≠ dot)) (base path).reverse
        rw [rest] at head
        simpa using head
      rw [first] at rest
      simp only [more, if_true]
      refine ⟨before.reverse, ?_, by simpa using more⟩
      rw [← List.singleton_append, ← List.append_assoc, ← List.reverse_cons, ← rest,
        ← List.reverse_append, List.takeWhile_append_dropWhile, List.reverse_reverse]
    · exact absurd rfl extended
  · exact absurd rfl extended

theorem base_suffix (path : Text) : base path <:+ path :=
  List.reverse_prefix.1 (by simpa [base] using List.takeWhile_prefix _)

theorem extension_suffix (path : Text) : extension path <:+ path := by
  rcases eq_or_ne (extension path) [] with none | extended
  · rw [none]
    exact List.nil_suffix
  · obtain ⟨name, spelled, -⟩ := exists_base_eq_append extended
    exact List.IsSuffix.trans ⟨name, spelled.symm⟩ (base_suffix path)

theorem stem_append_extension (path : Text) : stem path ++ extension path = path := by
  obtain ⟨front, spelled⟩ := extension_suffix path
  have cut : path.length - (extension path).length = front.length := by
    have lengths := congrArg List.length spelled
    rw [List.length_append] at lengths
    omega
  have taken : (front ++ extension path).take front.length = front := List.take_left
  rw [spelled] at taken
  rw [stem, cut, taken, spelled]

@[simp] theorem stem_under (directory path : Text) :
    stem (under directory path) = under directory (stem path) := by
  have whole := stem_append_extension (under directory path)
  have inner := stem_append_extension path
  apply List.append_cancel_right
  rw [whole, extension_under, under, under, List.append_assoc, List.cons_append, inner]

end ModuleAudit.Path
