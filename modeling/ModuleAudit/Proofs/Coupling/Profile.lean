import Mathlib.Data.List.GetD
import ModuleAudit.Proofs.Coupling

/-!
# What a coupling profile says about the modules

The figures of a profile are read from the fan-outs in increasing order. Whatever
stands at a place there is not exceeded by more modules than the place counts, and all
modules but as many reach it. With the places in the middle and at nine tenths, the
figures are a median and a ninth decile, and the last fan-out is the largest.

The core modules are the first of the imported modules, ordered by their importers and
then by their paths. Since this order tells any two modules apart, whatever is left out
stands behind all that is listed.
-/

namespace ModuleAudit

/-! ## Places in a sorted list -/

section Places

variable {l : List Nat} {place figure : Nat}

/-- More entries than stand before a place are at most what stands there. -/
theorem lt_countP_of_getElem? (sorted : l.Pairwise (· ≤ ·)) (found : l[place]? = some figure) :
    place < l.countP (· ≤ figure) := by
  induction l generalizing place with
  | nil => cases found
  | cons first l ih =>
    obtain ⟨least, sorted⟩ := List.pairwise_cons.1 sorted
    cases place with
    | zero =>
      obtain rfl : first = figure := Option.some.inj found
      rw [List.countP_cons_of_pos (by simp)]
      omega
    | succ place =>
      have later : l[place]? = some figure := found
      have below : first ≤ figure := least figure (List.mem_of_getElem? later)
      have more := ih sorted later
      rw [List.countP_cons_of_pos (by simpa using below)]
      omega

/-- All entries but those before a place are at least what stands there. -/
theorem length_le_add_countP (sorted : l.Pairwise (· ≤ ·)) (found : l[place]? = some figure) :
    l.length ≤ place + l.countP (figure ≤ ·) := by
  induction l generalizing place with
  | nil => cases found
  | cons first l ih =>
    obtain ⟨least, sorted⟩ := List.pairwise_cons.1 sorted
    cases place with
    | zero =>
      obtain rfl : first = figure := Option.some.inj found
      have all : (first :: l).countP (first ≤ ·) = (first :: l).length := by
        rw [List.countP_eq_length]
        simpa using least
      omega
    | succ place =>
      have more := ih sorted found
      have kept : l.countP (figure ≤ ·) ≤ (first :: l).countP (figure ≤ ·) :=
        (List.sublist_cons_self first l).countP_le
      rw [List.length_cons]
      omega

theorem le_of_getElem?_of_le (sorted : l.Pairwise (· ≤ ·)) {later greater : Nat}
    (found : l[place]? = some figure) (found' : l[later]? = some greater) (order : place ≤ later) :
    figure ≤ greater := by
  obtain ⟨inside, rfl⟩ := List.getElem?_eq_some_iff.1 found
  obtain ⟨inside', rfl⟩ := List.getElem?_eq_some_iff.1 found'
  rcases Nat.lt_or_eq_of_le order with before | rfl
  · exact List.pairwise_iff_getElem.1 sorted place later inside inside' before
  · exact Nat.le_refl _

end Places

namespace CouplingMeter

/-! ## Fan-outs in order -/

section FanOuts

variable (nodes : NodeMap)

theorem fanOuts_perm : (fanOuts nodes).Perm (nodes.values.map ModuleNode.fanOut) :=
  List.mergeSort_perm _ _

theorem pairwise_fanOuts : (fanOuts nodes).Pairwise (· ≤ ·) := by
  have spec (a b : Nat) : decide (a ≤ b) = true ↔ id a ≤ id b := decide_eq_true_iff
  exact pairwise_mergeSort_key spec _

@[simp] theorem length_fanOuts : (fanOuts nodes).length = nodes.size := by
  rw [(fanOuts_perm nodes).length_eq, List.length_map, Table.length_values]

theorem mem_fanOuts_iff {nodes : NodeMap} {figure : Nat} :
    figure ∈ fanOuts nodes ↔ ∃ e ∈ nodes.entries, e.2.fanOut = figure := by
  rw [(fanOuts_perm nodes).mem_iff]
  simp [Table.values]

/-- The number of modules whose fan-out passes a test. -/
def countFanOut (test : Nat → Bool) : Nat := nodes.values.countP fun n => test n.fanOut

theorem countP_fanOuts (test : Nat → Bool) :
    (fanOuts nodes).countP test = countFanOut nodes test := by
  rw [(fanOuts_perm nodes).countP_eq, List.countP_map]
  rfl

end FanOuts

/-! ## The figures -/

/-- Whether the figures of a profile sum up the fan-outs of modules. Two of them stand
for shares of the modules: one half, and nine tenths against one tenth. -/
structure SumsUp (nodes : NodeMap) (p : CouplingProfile) : Prop where
  median_le_p90 : p.median ≤ p.p90
  p90_le_max : p.p90 ≤ p.max
  attained : ∀ figure ∈ [p.median, p.p90, p.max], ∃ e ∈ nodes.entries, e.2.fanOut = figure
  le_max : ∀ e ∈ nodes.entries, e.2.fanOut ≤ p.max
  upToMedian : nodes.size < 2 * countFanOut nodes (· ≤ p.median)
  fromMedian : nodes.size ≤ 2 * countFanOut nodes (p.median ≤ ·)
  upToP90 : 9 * nodes.size < 10 * countFanOut nodes (· ≤ p.p90)
  fromP90 : nodes.size ≤ 10 * countFanOut nodes (p.p90 ≤ ·)

/-- Whether the figures of a profile stand in the list of fan-outs where they are looked
up, which is in its middle, behind nine tenths of it, and at its end. -/
structure LookedUp (counts : List Nat) (p : CouplingProfile) : Prop where
  median : counts[counts.length / 2]? = some p.median
  p90 : counts[counts.length * 9 / 10]? = some p.p90
  max : counts[counts.length - 1]? = some p.max

theorem lookedUp_profile {m : CouplingMeter} (nonempty : m.nodes.entries ≠ []) :
    LookedUp (fanOuts m.nodes) m.profile := by
  have pos : 0 < (fanOuts m.nodes).length := by
    rw [length_fanOuts]
    exact List.length_pos_iff.2 nonempty
  have inside {place : Nat} (inside : place < (fanOuts m.nodes).length) :
      (fanOuts m.nodes)[place]? = some ((fanOuts m.nodes).getD place 0) := by
    rw [List.getD_eq_getElem?_getD, List.getElem?_eq_getElem inside]
    rfl
  refine ⟨inside (by omega), inside (by omega), ?_⟩
  show _ = some ((fanOuts m.nodes).getLastD 0)
  rw [List.getLastD_eq_getLast?, List.getLast?_eq_getElem?,
    List.getElem?_eq_getElem (by omega)]
  rfl

theorem LookedUp.sumsUp {nodes : NodeMap} {p : CouplingProfile}
    (found : LookedUp (fanOuts nodes) p) : SumsUp nodes p := by
  have sorted := pairwise_fanOuts nodes
  obtain ⟨median, p90, max⟩ := found
  have below {place figure : Nat} (found : (fanOuts nodes)[place]? = some figure) :
      place < countFanOut nodes (· ≤ figure) :=
    countP_fanOuts nodes _ ▸ lt_countP_of_getElem? sorted found
  have above {place figure : Nat} (found : (fanOuts nodes)[place]? = some figure) :
      nodes.size ≤ place + countFanOut nodes (figure ≤ ·) :=
    length_fanOuts nodes ▸ countP_fanOuts nodes _ ▸ length_le_add_countP sorted found
  have belowMedian := below median
  have aboveMedian := above median
  have belowP90 := below p90
  have aboveP90 := above p90
  rw [length_fanOuts] at belowMedian aboveMedian belowP90 aboveP90
  refine ⟨?_, ?_, ?_, ?_, by omega, by omega, by omega, by omega⟩
  · apply le_of_getElem?_of_le sorted median p90
    omega
  · apply le_of_getElem?_of_le sorted p90 max
    have inside := (List.getElem?_eq_some_iff.1 p90).1
    omega
  · simp only [List.forall_mem_cons, ← mem_fanOuts_iff]
    refine ⟨List.mem_of_getElem? median, List.mem_of_getElem? p90, List.mem_of_getElem? max, ?_⟩
    intro figure listed
    cases listed
  · intro e listed
    obtain ⟨place, found⟩ := List.mem_iff_getElem?.1 (mem_fanOuts_iff.2 ⟨e, listed, rfl⟩)
    apply le_of_getElem?_of_le sorted found max
    have inside := (List.getElem?_eq_some_iff.1 found).1
    omega

/-! ## Core modules -/

/-- Whether a list holds the foremost of the imported modules, as many as are listed:
what it omits has fewer importers than each module on it, or as many and a greater path. -/
structure Foremost (nodes : NodeMap) (core : List (Text × Nat)) : Prop where
  length_eq : core.length = min 5 (nodes.values.countP fun n => !n.importedBy.isEmpty)
  nodup : (core.map Prod.fst).Nodup
  imported : ∀ c ∈ core, ∃ n, nodes.get? c.1 = some n ∧ n.importedBy ≠ [] ∧ c.2 = n.fanIn
  ahead : ∀ e ∈ nodes.entries, e.1 ∉ core.map Prod.fst → ∀ c ∈ core,
    e.2.fanIn < c.2 ∨ e.2.fanIn = c.2 ∧ Text.before c.1 e.1 = true

def isImported (e : Text × ModuleNode) : Bool := !e.2.importedBy.isEmpty

theorem isImported_iff {e : Text × ModuleNode} : isImported e = true ↔ e.2.importedBy ≠ [] := by
  simp [isImported]

variable (nodes : NodeMap)

theorem importedModules_perm :
    (importedModules nodes).Perm
      ((nodes.entries.filter isImported).map fun e => (e.1, e.2.fanIn)) := by
  apply (List.mergeSort_perm _ _).trans
  rw [← List.filterMap_eq_map, List.filterMap_filter]
  refine .of_eq (List.filterMap_congr fun e _ => ?_)
  cases unused : e.2.importedBy.isEmpty <;> simp [isImported, unused]

theorem mem_importedModules_iff {c : Text × Nat} :
    c ∈ importedModules nodes ↔
      ∃ n, nodes.get? c.1 = some n ∧ n.importedBy ≠ [] ∧ c.2 = n.fanIn := by
  rw [(importedModules_perm nodes).mem_iff, List.mem_map]
  constructor
  · rintro ⟨e, listed, rfl⟩
    obtain ⟨listed, used⟩ := List.mem_filter.1 listed
    exact ⟨e.2, Table.get?_of_mem_entries listed, isImported_iff.1 used, rfl⟩
  · rintro ⟨n, found, used, count⟩
    have listed : (c.1, n) ∈ nodes.entries := (nodes.mem_entries_iff (c.1, n)).2 found
    exact ⟨(c.1, n), List.mem_filter.2 ⟨listed, isImported_iff.2 used⟩, Prod.ext rfl count.symm⟩

theorem nodup_paths_importedModules : ((importedModules nodes).map Prod.fst).Nodup := by
  rw [((importedModules_perm nodes).map Prod.fst).nodup_iff, List.map_map]
  exact nodes.nodup_keys.sublist (List.filter_sublist.map Prod.fst)

theorem length_importedModules :
    (importedModules nodes).length = nodes.values.countP fun n => !n.importedBy.isEmpty := by
  rw [(importedModules_perm nodes).length_eq, List.length_map, ← List.countP_eq_length_filter,
    Table.values, List.countP_map]
  rfl

/-- The imported modules come strictly one after the other. -/
theorem pairwise_importedModules :
    (importedModules nodes).Pairwise fun a b => rank a < rank b := by
  apply pairwise_lt_mergeSort_key rank_injective comesBefore_iff
  apply (List.mergeSort_perm _ _).nodup_iff.1
  exact List.Nodup.of_map Prod.fst (nodup_paths_importedModules nodes)

theorem rank_lt_iff (a b : Text × Nat) :
    rank a < rank b ↔ b.2 < a.2 ∨ b.2 = a.2 ∧ Text.before a.1 b.1 = true := by
  rw [rank, rank, Prod.Lex.toLex_lt_toLex, Text.before_iff, OrderDual.toDual_lt_toDual,
    OrderDual.toDual_inj, eq_comm]

theorem foremost_core : Foremost nodes ((importedModules nodes).take coreLimit) := by
  have whole := List.take_append_drop coreLimit (importedModules nodes)
  constructor
  · rw [List.length_take, length_importedModules]
    rfl
  · exact (nodup_paths_importedModules nodes).sublist ((List.take_sublist _ _).map Prod.fst)
  · intro c listed
    exact (mem_importedModules_iff nodes).1 (List.mem_of_mem_take listed)
  · intro e listed omitted c foremost
    obtain ⟨n, -, used, count⟩ := (mem_importedModules_iff nodes).1 (List.mem_of_mem_take foremost)
    by_cases unused : e.2.importedBy = []
    · have positive : 0 < n.fanIn := List.length_pos_iff.2 used
      have zero : e.2.fanIn = 0 := List.length_eq_zero_iff.2 unused
      omega
    · have member : (e.1, e.2.fanIn) ∈ importedModules nodes :=
        (mem_importedModules_iff nodes).2 ⟨e.2, Table.get?_of_mem_entries listed, unused, rfl⟩
      rw [← whole] at member
      have behind := (List.mem_append.1 member).resolve_left fun first =>
        omitted (List.mem_map_of_mem first)
      have ordered := pairwise_importedModules nodes
      rw [← whole] at ordered
      exact (rank_lt_iff _ _).1 ((List.pairwise_append.1 ordered).2.2 c foremost _ behind)

/-- The profile of a project with modules looks up its figures where there are fan-outs.
They sum up the fan-outs, and the core modules are the foremost of the imported ones. -/
theorem profile_sums_up (m : CouplingMeter) (nonempty : m.nodes.entries ≠ []) :
    LookedUp (fanOuts m.nodes) m.profile ∧ SumsUp m.nodes m.profile ∧
      Foremost m.nodes m.profile.core := by
  have found := lookedUp_profile nonempty
  exact ⟨found, found.sumsUp, foremost_core m.nodes⟩

/-- A module with as many imports and importers as are asked for. -/
def moduleWith (fanOut fanIn : Nat) : ModuleNode where
  fileType := .code
  exports := []
  imports := List.replicate fanOut ⟨⟨"./x", none, [], "import"⟩, "/x"⟩
  importedBy := List.replicate fanIn ⟨"/y", none, "import"⟩

/-- Seven modules, of which six are imported. Two of these have the fewest importers, and
one of the two has to be left out. -/
def sevenModules : CouplingMeter where
  nodes := .ofList
    [("/g", moduleWith 4 1), ("/a", moduleWith 0 3), ("/f", moduleWith 1 1),
      ("/b", moduleWith 1 2), ("/c", moduleWith 2 0), ("/d", moduleWith 9 2),
      ("/e", moduleWith 0 5)]
  threshold := 10
  excludePatterns := []
  root := none

theorem profile_sums_up_seven :
    let m := sevenModules
    let core : List (Text × Nat) := [("/e", 5), ("/a", 3), ("/b", 2), ("/d", 2), ("/f", 1)]
    m.nodes.entries ≠ [] ∧ m.profile.median = 1 ∧ m.profile.p90 = 9 ∧ m.profile.max = 9 ∧
      m.profile.core = core ∧ SumsUp m.nodes m.profile ∧ Foremost m.nodes m.profile.core := by
  intro m core
  have nonempty : m.nodes.entries ≠ [] := by decide
  have evaluated : m.profile.median = 1 ∧ m.profile.p90 = 9 ∧ m.profile.max = 9 ∧
      m.profile.core = core := by
    cbv
  obtain ⟨median, p90, max, core⟩ := evaluated
  obtain ⟨-, figures, foremost⟩ := profile_sums_up m nonempty
  exact ⟨nonempty, median, p90, max, core, figures, foremost⟩

end CouplingMeter

end ModuleAudit
