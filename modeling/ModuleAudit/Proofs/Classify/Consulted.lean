import Mathlib.Data.List.Basic
import ModuleAudit.Classify.Import
import ModuleAudit.Proofs.Resolver.PlainNames

/-!
# What the verdict on an import depends on

Of the graph the signals consult the exports of a target, and of the resolver the
modules with a similar name, of which there has to be only one. The verdict is
therefore the same for the known paths in any order, and for nodes with the same
exports.
-/

namespace ModuleAudit.ImportClassifier

theorem only?_eq_of_perm {α : Type} {l l' : List α} (perm : l.Perm l') : only? l = only? l' := by
  match l, perm with
  | [], perm => rw [perm.nil_eq]
  | [a], perm => rw [List.singleton_perm.1 perm]
  | a :: b :: rest, perm =>
    match l', perm with
    | [], perm => exact absurd perm.length_eq (by simp)
    | [c], perm => exact absurd perm.length_eq (by simp)
    | c :: d :: rest', _ => rfl

section

variable {c c' : ImportClassifier}

theorem similarModules_perm {r r' : Resolver} (resolver : c.resolver = some r)
    (resolver' : c'.resolver = some r') (paths : r.paths.Perm r'.paths) (s : ImportSubject) :
    (c.similarModules s).Perm (c'.similarModules s) := by
  unfold similarModules
  rw [resolver, resolver']
  dsimp only
  split
  · exact .nil
  · exact paths.filter _

/-- The modules with a similar name are those that the table of plain names lists under a
name near the wanted one. -/
theorem similarModules_perm_byPlainName {r : Resolver} (resolver : c.resolver = some r)
    (s : ImportSubject) :
    (c.similarModules s).Perm (if [[], Path.here, Path.up].contains (wantedName s) then []
      else r.byPlainName.entries.flatMap fun e =>
        if Text.distance e.1 (wantedName s) ≤ maxTypoDistance then
          e.2.filter fun path => path ≠ s.importer
        else []) := by
  have near (e : Text × List Text) :
      (if Text.distance e.1 (wantedName s) ≤ maxTypoDistance then
        e.2.filter fun path => path ≠ s.importer else []) =
      ((e.2.map fun path => (e.1, path)).filter fun e =>
        Text.distance e.1 (wantedName s) ≤ maxTypoDistance && e.2 ≠ s.importer).map Prod.snd := by
    split <;> simp [List.filter_map, Function.comp_def, *]
  rw [similarModules, resolver]
  dsimp only
  split
  · exact .nil
  · simp only [near, ← List.map_flatMap, ← List.filter_flatMap]
    refine .trans (.of_eq ?_) (((Resolver.listings_byPlainName r).filter _).map Prod.snd).symm
    simp [List.filter_map, Function.comp_def, Bool.and_comm]

theorem targetExports_eq
    (exports : ∀ path, (c.nodes.get? path).map ModuleNode.exports =
      (c'.nodes.get? path).map ModuleNode.exports) (s : ImportSubject) :
    c.targetExports s = c'.targetExports s := by
  have read (c : ImportClassifier) : c.targetExports s =
      (s.target.bind fun path => (c.nodes.get? path).map ModuleNode.exports).getD [] := by
    unfold targetExports
    cases s.target with
    | none => rfl
    | some path => cases found : c.nodes.get? path <;> simp [found]
  rw [read, read]
  exact congrArg (fun read => (s.target.bind read).getD []) (funext exports)

/-- Classifiers with the same weights agree on an import that their signals agree on. -/
theorem classify_congr {s : ImportSubject} (empty : c.meetsEmptyPath s = c'.meetsEmptyPath s)
    (weights : c.weights = c'.weights)
    (detects : ∀ signal, c.detect signal s = c'.detect signal s) :
    c.classify s = c'.classify s := by
  have same : Evaluation.ofSignals c.signals s = Evaluation.ofSignals c'.signals s := by
    simp only [Evaluation.ofSignals, signals, NamedTest.weigh, tests, NamedTest.ofKinds,
      List.foldl_map, detects, weights]
    rfl
  rw [classify, classify, empty, same]

/-- Classifiers with the same settings agree where they see the same exports and
the same similar modules. -/
theorem classify_eq (similar : ∀ s, (c.similarModules s).Perm (c'.similarModules s))
    (targets : ∀ s, c.targetExports s = c'.targetExports s)
    (ignored : c.ignoredImports = c'.ignoredImports) (weights : c.weights = c'.weights)
    (extensions : c.extensions = c'.extensions) : c.classify = c'.classify := by
  have spelling (s : ImportSubject) : c.likelySpelling s = c'.likelySpelling s := by
    rw [likelySpelling, likelySpelling, targets, only?_eq_of_perm (similar s)]
  have detects (s : ImportSubject) (signal : ImportSignal) :
      c.detect signal s = c'.detect signal s := by
    cases signal with
    | ignoredByConfig => rw [detect, detect, ignored]
    | starReExportTarget => rw [detect, detect, targets]
    | possibleTypo => rw [detect, detect, spelling]
    | missingExtension => rw [detect, detect, extensions]
    | _ => rfl
  have empty (s : ImportSubject) : c.meetsEmptyPath s = c'.meetsEmptyPath s := by
    rw [meetsEmptyPath, meetsEmptyPath]
    congr 1
    rw [Bool.eq_iff_iff, beq_iff_eq, beq_iff_eq, ← List.perm_singleton, ← List.perm_singleton]
    exact ⟨(similar s).symm.trans, (similar s).trans⟩
  funext s
  exact classify_congr (empty s) weights (detects s)

end

/-- The verdict on an import depends on the known paths and on the exports only. -/
theorem classify_make_eq {r r' : Resolver} {nodes nodes' : NodeMap}
    (paths : r.paths.Perm r'.paths)
    (exports : ∀ path, (nodes.get? path).map ModuleNode.exports =
      (nodes'.get? path).map ModuleNode.exports)
    (rules : Rules) (weights : Table Text Int) (extensions : List Text) :
    (make (some r) nodes rules weights extensions).classify =
      (make (some r') nodes' rules weights extensions).classify :=
  classify_eq (similarModules_perm rfl rfl paths) (targetExports_eq exports) rfl rfl rfl

end ModuleAudit.ImportClassifier
