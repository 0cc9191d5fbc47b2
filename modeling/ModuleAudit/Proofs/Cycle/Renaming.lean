import ModuleAudit.Proofs.Cycle.Reported

/-!
# Renaming the modules on cycles

A canonical cycle starts with its smallest member, and components are listed in
order. Both look at how names compare, so a renaming has to keep their order to
commute with them.
-/

namespace ModuleAudit

/-- Whether a renaming keeps the order of texts. -/
def KeepsOrder (f : Text → Text) : Prop := ∀ a b, Text.before (f a) (f b) = Text.before a b

def renameList {α β : Type} (f : α ↪ β) : List α ↪ List β where
  toFun := List.map f
  inj' := List.map_injective_iff.2 f.injective

variable {f : Text ↪ Text} {ε : Type}

theorem sort_rename (keeps : KeepsOrder f) (texts : List Text) :
    Text.sort (texts.map f) = (Text.sort texts).map f := by
  apply Eq.symm
  apply List.map_mergeSort
  intro a _ b _
  rw [Text.atMost, Text.atMost, keeps]

theorem listBefore_rename (keeps : KeepsOrder f) (as bs : List Text) :
    listBefore Text.before (as.map f) (bs.map f) = listBefore Text.before as bs := by
  induction as generalizing bs with
  | nil => cases bs <;> rfl
  | cons a as ih =>
    cases bs with
    | nil => rfl
    | cons b bs => simp only [List.map_cons, listBefore, keeps a b, ih, f.injective.eq_iff]

namespace Cycle

theorem members_rename (cycle : List Text) : members (cycle.map f) = (members cycle).map f := by
  have closed : (cycle.map f).head? = (cycle.map f).getLast? ↔ cycle.head? = cycle.getLast? := by
    rw [List.head?_map, List.getLast?_map, (Option.map_injective f.injective).eq_iff]
  simp only [members, List.length_map, closed]
  split
  · exact List.map_dropLast.symm
  · rfl

theorem smallest_rename (keeps : KeepsOrder f) (first : Text) (rest : List Text) :
    smallest (f first) (rest.map f) = f (smallest first rest) := by
  induction rest generalizing first with
  | nil => rfl
  | cons x rest ih =>
    simp only [smallest, List.map_cons, List.foldl_cons, keeps x first] at ih ⊢
    split
    · exact ih x
    · exact ih first

theorem canonical_rename (keeps : KeepsOrder f) (cycle : List Text) :
    canonical (cycle.map f) = (canonical cycle).map f := by
  rw [canonical, canonical, members_rename]
  cases members cycle with
  | nil => rfl
  | cons first rest =>
    have start := idxOf_rename f (first :: rest) (smallest first rest)
    simp only [List.map_cons] at start
    simp only [List.map_cons, smallest_rename keeps, start, List.map_append, List.map_drop,
      List.map_take]

theorem close_rename (cycle : List Text) : close (cycle.map f) = (close cycle).map f := by
  cases cycle <;> simp [close]

theorem distinct_rename (keeps : KeepsOrder f) (cycles : List (List Text)) :
    distinct (cycles.map (List.map f)) = (distinct cycles).map (List.map f) := by
  have canonicals : (cycles.map (List.map f)).map canonical =
      (cycles.map canonical).map (renameList f) := by
    rw [List.map_map, List.map_map]
    apply List.map_congr_left
    intro cycle _
    exact canonical_rename keeps cycle
  have nonempty : ((cycles.map canonical).map (renameList f)).filter (fun c => c ≠ []) =
      ((cycles.map canonical).filter fun c => c ≠ []).map (renameList f) := by
    rw [List.filter_map]
    congr 2
    funext c
    simp [renameList]
  rw [distinct, canonicals, nonempty, eraseDups_rename, distinct, List.map_map, List.map_map]
  apply List.map_congr_left
  intro c _
  exact close_rename c

end Cycle

namespace Digraph

/-- A renamed graph has the renamed cycles, in the same order. -/
theorem cycles_rename (keeps : KeepsOrder f) (g : Digraph Text ε) :
    (g.rename f).cycles = g.cycles.map (List.map f) := by
  rw [cycles, closedPaths_eq, nodes_rename, BackEdge.cycles_rename f (g.successors_rename f),
    ← closedPaths_eq]
  exact Cycle.distinct_rename keeps _

theorem holdsCycle_rename (g : Digraph Text ε) (component : List Text) :
    (g.rename f).holdsCycle (component.map f) = g.holdsCycle component := by
  simp only [holdsCycle, List.length_map, List.any_map, Function.comp_def, hasEdge_rename]

/-- A renamed graph has the renamed components, in the same order. -/
theorem cyclicComponents_rename (keeps : KeepsOrder f) (g : Digraph Text ε) :
    (g.rename f).cyclicComponents = g.cyclicComponents.map (List.map f) := by
  have kept : (g.components.map (List.map f)).filter (g.rename f).holdsCycle =
      (g.components.filter g.holdsCycle).map (List.map f) := by
    simp only [List.filter_map, Function.comp_def, holdsCycle_rename]
  have sorted : ((g.components.filter g.holdsCycle).map (List.map f)).map Text.sort =
      ((g.components.filter g.holdsCycle).map Text.sort).map (List.map f) := by
    rw [List.map_map, List.map_map]
    apply List.map_congr_left
    intro component _
    exact sort_rename keeps component
  rw [cyclicComponents, components_rename, kept, sorted]
  apply Eq.symm
  apply List.map_mergeSort
  intro a _ b _
  rw [listBefore_rename keeps]

end Digraph

end ModuleAudit
