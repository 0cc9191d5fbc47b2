import ModuleAudit.Proofs.Path.Normal

/-!
# Changing the extension of a path

An extension continues the last name of a path and leaves all before it alone, in the
path and in its normal form. It is found again at the end of the longer path, provided
that the name is more than dots: dots at the start of a name begin no extension.
-/

namespace ModuleAudit.Path

/-- A dot followed by one or more characters that are neither dots nor slashes, as
letters and digits are. -/
structure IsExtension (e : Text) : Prop where
  dotted : e.head? = some dot
  named : e.tail ≠ []
  single : dot ∉ e.tail
  whole : slash ∉ e.tail

instance (e : Text) : Decidable (IsExtension e) :=
  decidable_of_iff (e.head? = some dot ∧ e.tail ≠ [] ∧ dot ∉ e.tail ∧ slash ∉ e.tail)
    ⟨fun h => ⟨h.1, h.2.1, h.2.2.1, h.2.2.2⟩, fun h => ⟨h.dotted, h.named, h.single, h.whole⟩⟩

namespace IsExtension

variable {e : Text} (isExtension : IsExtension e)

include isExtension

theorem eq_cons : e = dot :: e.tail :=
  (List.cons_head?_tail isExtension.dotted).symm

theorem ne_nil : e ≠ [] := by
  rintro rfl
  cases isExtension.dotted

theorem exists_ne_dot : ∃ c ∈ e, c ≠ dot := by
  obtain ⟨c, hc⟩ := List.exists_mem_of_ne_nil _ isExtension.named
  exact ⟨c, List.mem_of_mem_tail hc, fun same => isExtension.single (same ▸ hc)⟩

theorem slash_not_mem : slash ∉ e := by
  rw [isExtension.eq_cons, List.mem_cons, not_or]
  exact ⟨by decide, isExtension.whole⟩

/-- An extension is a name by itself, and so is whatever it continues. -/
theorem isName_append {front : Text} (whole : slash ∉ front) : IsName (front ++ e) := by
  obtain ⟨c, hc, other⟩ := isExtension.exists_ne_dot
  refine isName_of_ne_dot ⟨c, List.mem_append_right _ hc, other⟩ ?_
  rw [List.mem_append, not_or]
  exact ⟨whole, isExtension.slash_not_mem⟩

end IsExtension

/-! ## Longer last components -/

theorem base_append {more : Text} (whole : slash ∉ more) (path : Text) :
    base (path ++ more) = base path ++ more := by
  have passed : ∀ c ∈ more.reverse, decide (c ≠ slash) = true := fun c hc =>
    decide_eq_true fun same => whole (same ▸ List.mem_reverse.1 hc)
  rw [base, base, List.reverse_append, List.takeWhile_append_of_pos passed, List.reverse_append,
    List.reverse_reverse]

theorem base_append_of_mem {path : Text} (parted : slash ∈ path) (front : Text) :
    base (front ++ path) = base path := by
  obtain ⟨directory, spelled⟩ := exists_eq_under_base parted
  conv_lhs => rw [spelled, under, ← List.append_assoc]
  exact (base_under _ _).trans (base_of_not_mem (slash_not_mem_base path))

theorem base_join {path : Text} (parted : slash ∈ path) (directory : Text) :
    base (join directory path) = base path := by
  unfold join
  split
  · rfl
  · split
    · exact base_append_of_mem parted directory
    · rw [← List.singleton_append, ← List.append_assoc]
      exact base_append_of_mem parted _

theorem extension_base (path : Text) : extension (base path) = extension path := by
  simp only [extension, base_of_not_mem (slash_not_mem_base path)]

/-- An extension behind more than dots is the extension of the whole. -/
theorem extension_append {path e : Text} (isExtension : IsExtension e)
    (named : ∃ c ∈ base path, c ≠ dot) : extension (path ++ e) = e := by
  obtain ⟨c, hc, other⟩ := named
  have passed : ∀ d ∈ e.tail.reverse, decide (d ≠ dot) = true := fun d hd =>
    decide_eq_true fun same => isExtension.single (same ▸ List.mem_reverse.1 hd)
  have reversed : (base (path ++ e)).reverse = e.tail.reverse ++ dot :: (base path).reverse := by
    rw [base_append isExtension.slash_not_mem, List.reverse_append]
    conv_lhs => rw [isExtension.eq_cons]
    simp
  have dotless : (base (path ++ e)).reverse.takeWhile (fun d => d ≠ dot) = e.tail.reverse := by
    rw [reversed, List.takeWhile_append_of_pos passed]
    simp
  have dotted : (base (path ++ e)).reverse.dropWhile (fun d => d ≠ dot) =
      dot :: (base path).reverse := by
    rw [reversed, List.dropWhile_append_of_pos passed]
    simp
  have more : ((base path).reverse.any fun d => d ≠ dot) = true :=
    List.any_eq_true.2 ⟨c, List.mem_reverse.2 hc, decide_eq_true other⟩
  simp only [extension, dotted, dotless, more, if_true, List.reverse_reverse]
  exact isExtension.eq_cons.symm

theorem stem_append {path e : Text} (isExtension : IsExtension e)
    (named : ∃ c ∈ base path, c ≠ dot) : stem (path ++ e) = path := by
  have whole := stem_append_extension (path ++ e)
  rw [extension_append isExtension named] at whole
  exact List.append_cancel_right whole

/-- Before an extension there is more than dots. -/
theorem exists_ne_dot_stem {path : Text} (extended : extension path ≠ []) :
    ∃ c ∈ stem path, c ≠ dot := by
  obtain ⟨name, named, c, hc, other⟩ := exists_base_eq_append extended
  obtain ⟨front, spelled⟩ := base_suffix path
  have cut : stem path = front ++ name := by
    apply List.append_cancel_right
    rw [stem_append_extension, List.append_assoc, ← named, spelled]
  rw [cut]
  exact ⟨c, List.mem_append_right _ hc, other⟩

/-! ## Normal paths with another ending -/

theorem Normal.append {path e : Text} (normal : Normal path) (isExtension : IsExtension e) :
    Normal (path ++ e) := by
  obtain ⟨lead, names, leads, areNames, rfl⟩ := normal.exists_names
  rcases List.eq_nil_or_concat' names with rfl | ⟨before, last, rfl⟩
  · have alone : lead ++ ofNames [] ++ e = lead ++ ofNames [e] := by
      simp [ofNames, joinSegments]
    rw [alone]
    refine normal_ofNames leads fun s hs => ?_
    rw [List.mem_singleton.1 hs]
    exact isExtension.isName_append (show slash ∉ ([] : Text) from List.not_mem_nil)
  · obtain ⟨beforeNames, lastName⟩ := List.forall_mem_append.1 areNames
    have whole : slash ∉ last := (lastName last List.mem_cons_self).2.2.2
    rw [List.append_assoc, ← ofNames_concat_append]
    refine normal_ofNames leads (List.forall_mem_append.2 ⟨beforeNames, fun s hs => ?_⟩)
    rw [List.mem_singleton.1 hs]
    exact isExtension.isName_append whole

/-- A path with an extension stays normal under any other ending. -/
theorem Normal.exchange {path : Text} (normal : Normal path) (extended : extension path ≠ [])
    {ending : Text} (whole : slash ∉ ending) : Normal (stem path ++ ending) := by
  obtain ⟨lead, names, leads, areNames, rfl⟩ := normal.exists_names
  rcases List.eq_nil_or_concat' names with rfl | ⟨before, last, rfl⟩
  · refine absurd ?_ extended
    rcases leads with rfl | rfl <;> decide
  · obtain ⟨beforeNames, lastName⟩ := List.forall_mem_append.1 areNames
    have lastWhole : slash ∉ last := (lastName last List.mem_cons_self).2.2.2
    have spelled (name : Text) : lead ++ ofNames (before ++ [name]) =
        under (lead ++ before.flatMap (slash :: ·)) name := by
      rw [ofNames_concat, under, under, List.append_assoc]
    rw [spelled, extension_under] at extended
    obtain ⟨c, hc, other⟩ := exists_ne_dot_stem extended
    have exchanged : stem (lead ++ ofNames (before ++ [last])) ++ ending =
        lead ++ ofNames (before ++ [stem last ++ ending]) := by
      rw [spelled, spelled, stem_under, under, under, List.append_assoc, List.cons_append]
    have shorter : slash ∉ stem last := fun mem =>
      lastWhole (stem_append_extension last ▸ List.mem_append_left _ mem)
    rw [exchanged]
    refine normal_ofNames leads (List.forall_mem_append.2 ⟨beforeNames, fun s hs => ?_⟩)
    rw [List.mem_singleton.1 hs]
    refine isName_of_ne_dot ⟨c, List.mem_append_left _ hc, other⟩ ?_
    rw [List.mem_append, not_or]
    exact ⟨shorter, whole⟩

/-! ## The normal form of a longer path -/

theorem reduce_concat {name : Text} (isName : IsName name) (absolute : Bool)
    (front : List Text) : reduce absolute (front ++ [name]) = reduce absolute front ++ [name] := by
  rw [reduce, reduce, List.foldl_append, List.foldl_cons, List.foldl_nil,
    enter_of_isName isName, List.reverse_cons]

theorem normalize_under_name {directory name : Text}
    (absolute : isAbsolute (under directory name) = true) (isName : IsName name) :
    ∃ lead, root (under directory name) = lead ++ [slash] ∧ normalize (under directory name) =
      lead ++ ofNames (reduce true (segments directory) ++ [name]) := by
  obtain ⟨lead, -, rooted⟩ := root_eq_lead absolute
  have alone : segments name = [name] := by
    simpa [joinSegments_cons] using segments_joinSegments (List.cons_ne_nil name [])
      (fun s hs => List.mem_singleton.1 hs ▸ isName.isPart)
  refine ⟨lead, rooted, ?_⟩
  rw [normalize_of_absolute absolute, rooted, under, segments_append_slash, alone,
    reduce_concat isName, List.append_assoc]
  rfl

theorem base_normalize {path : Text} (absolute : isAbsolute path = true)
    (isName : IsName (base path)) : base (normalize path) = base path := by
  obtain ⟨directory, spelled⟩ := exists_eq_under_base (slash_mem_of_isAbsolute absolute)
  rw [spelled] at absolute
  obtain ⟨lead, -, normal⟩ := normalize_under_name absolute isName
  conv_lhs => rw [spelled, normal, ofNames_concat, under, ← List.append_assoc]
  exact (base_under _ _).trans (base_of_not_mem isName.2.2.2)

/-- What continues the last name of a path continues its normal form. -/
theorem normalize_append {path more : Text} (absolute : isAbsolute path = true)
    (isName : IsName (base path)) (longer : IsName (base path ++ more)) :
    normalize (path ++ more) = normalize path ++ more := by
  obtain ⟨directory, spelled⟩ := exists_eq_under_base (slash_mem_of_isAbsolute absolute)
  generalize base path = name at spelled isName longer
  subst spelled
  have moved : under directory name ++ more = under directory (name ++ more) := by
    rw [under, under, List.append_assoc, List.cons_append]
  have absolute' : isAbsolute (under directory (name ++ more)) = true := by
    rw [← moved]
    obtain ⟨rest, begins⟩ := isAbsolute_iff.1 absolute
    rw [begins]
    rfl
  obtain ⟨c, hc⟩ := List.exists_mem_of_ne_nil _ isName.1
  have named : ∃ c ∈ under directory name, c ≠ slash :=
    ⟨c, List.mem_append_right _ (List.mem_cons_of_mem _ hc), fun same => isName.2.2.2 (same ▸ hc)⟩
  obtain ⟨lead, rooted, normal⟩ := normalize_under_name absolute isName
  obtain ⟨lead', rooted', normal'⟩ := normalize_under_name absolute' longer
  have same : lead = lead' := by
    rw [← moved, root_append named, rooted] at rooted'
    exact List.append_cancel_right rooted'
  rw [moved, normal', normal, ← same, ofNames_concat_append, List.append_assoc]

end ModuleAudit.Path
