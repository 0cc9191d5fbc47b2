import ModuleAudit.Proofs.Analysis.Rereading
import ModuleAudit.Proofs.Classify.Correction
import ModuleAudit.Proofs.ExportUsage.Ledger

/-!
# Corrected names of missing exports

A missing export is corrected to the only name near it in the exports of the
target. The exports are listed as they were written there, while the ledger of the
target has an entry for each name that they declare. The two differ where an export
forwards all names of another module: it is written with the name `*`, which it
does not declare. Any other name that is suggested has an entry, and an import that
asks for it is entered as a consumer.
-/

namespace ModuleAudit

/-! ## Names near a missing one -/

namespace ImportClassifier

/-- Whether a module has another export whose name is at most two edits away. -/
def NearExport (n : ModuleNode) (name other : Text) : Prop :=
  (∃ d ∈ n.exports, d.name = other) ∧ other ≠ name ∧ ∃ k ≤ 2, Text.Edits k other name

theorem mem_similarExports_iff {n : ModuleNode} {name other : Text} :
    other ∈ similarExports n.exports name ↔ NearExport n name other := by
  rw [NearExport, similarExports, List.mem_filter, Text.sort, List.mem_mergeSort,
    List.mem_eraseDups, List.mem_filter, List.mem_map, decide_eq_true_eq, decide_eq_true_eq, and_assoc,
    Text.distance_le_iff]
  rfl

theorem given_name_subject {f : MissingExport} (named : f.name ≠ []) :
    given f.subject.name = some f.name := by
  simpa [given, MissingExport.subject] using named

/-- The spelling of a missing export is the only one of the exports near it. -/
theorem similarExports_of_likelySpelling {c : ImportClassifier} {f : MissingExport}
    (named : f.name ≠ []) {spelling : Text} (likely : c.likelySpelling f.subject = some spelling) :
    similarExports (c.targetExports f.subject) f.name = [spelling] := by
  rw [likelySpelling, given_name_subject named] at likely
  exact only?_eq_some_iff.1 (Option.filter_eq_some_iff.1 likely).1

end ImportClassifier

/-! ## Missing exports of a report -/

theorem Binding.requestedName_ne_nil {b : Binding} (named : b.localName ≠ []) :
    b.requestedName ≠ [] := by
  unfold requestedName
  split
  · split
    · exact named
    · rename_i nonempty
      simpa using nonempty
  · exact named

namespace UsageReport

/-- A missing export is a binding that asks in vain. -/
theorem exists_of_mem_missing {nodes : NodeMap} {f : MissingExport}
    (listed : f ∈ (ofNodes nodes).missing) :
    ∃ e ∈ nodes.entries, ∃ i ∈ e.2.imports, ∃ b ∈ i.statement.bindings,
      asksInVain nodes i.target b = true ∧ i.target = f.target ∧ b.requestedName = f.name := by
  rw [missing_ofNodes, missingOf] at listed
  obtain ⟨e, he, listed⟩ := List.mem_flatMap.1 listed
  obtain ⟨i, hi, listed⟩ := List.mem_flatMap.1 listed
  obtain ⟨b, hb, rfl⟩ := List.mem_map.1 listed
  obtain ⟨hb, vain⟩ := List.mem_filter.1 hb
  exact ⟨e, he, i, hi, b, hb, vain, rfl, rfl⟩

/-- The target of a missing export keeps a ledger, which lacks its name. -/
theorem exists_target_of_mem_missing {nodes : NodeMap} {f : MissingExport}
    (listed : f ∈ (ofNodes nodes).missing) :
    ∃ n, nodes.get? f.target = some n ∧ n.keepsLedger = true ∧
      f.name ∉ Ledger.declaredNames n.exports := by
  obtain ⟨e, -, i, -, b, -, vain, target, name⟩ := exists_of_mem_missing listed
  rw [asksInVain, Bool.and_eq_true, Option.any_eq_true, target, name] at vain
  obtain ⟨-, n, found, vain⟩ := vain
  rw [Bool.and_eq_true, Bool.not_eq_true', ← Bool.not_eq_true, List.contains_iff_mem] at vain
  exact ⟨n, found, vain⟩

/-- Whether every named binding that asks a module for a name is a consumer of the
entry with this name, and none is reported to ask for it in vain. -/
def Answers (nodes : NodeMap) (target name : Text) : Prop :=
  (∀ u ∈ bindingUses nodes, u.import_.target = target → u.binding.kind = .named →
    u.binding.requestedName = name →
      ∃ ledger entry, (ofNodes nodes).ledgers.get? target = some ledger ∧
        ledger.get? name = some entry ∧ u.consumer ∈ entry.consumers) ∧
  ∀ f ∈ (ofNodes nodes).missing, f.target = target → f.name ≠ name

theorem answers_of_declared {nodes : NodeMap} {target name : Text} {n : ModuleNode}
    (found : nodes.get? target = some n) (kept : n.keepsLedger = true)
    (declared : name ∈ Ledger.declaredNames n.exports) : Answers nodes target name := by
  constructor
  · intro u hu into named asks
    obtain ⟨d, hd⟩ : ∃ d, Ledger.declarationOf n.exports name = some d := by
      obtain ⟨d, hd, plain, same⟩ := Ledger.mem_declaredNames_iff.1 declared
      rw [← Option.isSome_iff_exists, Ledger.declarationOf, List.find?_isSome]
      exact ⟨d, hd, by simp [plain, same]⟩
    refine ⟨ledgerOf nodes target n, _, ?_, by rw [get?_ledgerOf, hd]; rfl, ?_⟩
    · rw [get?_ledgers_ofNodes, found, Option.filter_some, if_pos kept]
      rfl
    · have reached : u.reaches target name = true := by
        simp [BindingUse.reaches, Binding.uses, into, named, asks]
      rw [consumersOf_eq]
      exact List.mem_map_of_mem (List.mem_filter.2 ⟨hu, reached⟩)
  · intro f listed into same
    obtain ⟨n', found', -, undeclared⟩ := exists_target_of_mem_missing listed
    rw [into, found] at found'
    rw [same, ← Option.some.inj found'] at undeclared
    exact undeclared declared

end UsageReport

namespace Survey

/-- What is judged is a finding with the verdict on it. -/
theorem judged_of_mem_classifyAll {α : Type} {judge : α → Except VerdictError Verdict}
    {findings : List α} {judged : List (Classified α)} (h : classifyAll judge findings = .ok judged)
    {f : Classified α} (hf : f ∈ judged) :
    f.finding ∈ findings ∧ judge f.finding = .ok f.verdict := by
  obtain ⟨finding, listed, made⟩ := exists_of_mem_mapM h hf
  obtain ⟨verdict, verdict_eq, made⟩ := ok_steps_of_bind made
  cases made
  exact ⟨listed, verdict_eq⟩

end Survey

namespace Project

theorem judged_of_mem_missing {p : Project} {facts : FactMap} {r : AnalysisReport}
    (analyzed : p.analyze facts = .ok r) {f : Classified MissingExport} (listed : f ∈ r.missing) :
    (p.survey facts).graph.nodes = r.nodes ∧ f.finding ∈ (UsageReport.ofNodes r.nodes).missing ∧
      ((p.survey facts).importClassifier p).classify f.finding.subject = .ok f.verdict := by
  obtain ⟨unused, missing, unresolved, -, judged, -, rfl⟩ := assembled_of_analyze analyzed
  obtain ⟨found, verdict⟩ := Survey.judged_of_mem_classifyAll judged listed
  refine ⟨rfl, ?_, verdict⟩
  unfold Survey.whenOn at found
  split at found
  · exact found
  · cases found

theorem name_ne_nil_of_mem_missing {p : Project} {facts : FactMap} {f : MissingExport}
    (listed : f ∈ (UsageReport.ofNodes (p.survey facts).graph.nodes).missing) : f.name ≠ [] := by
  obtain ⟨e, he, i, hi, b, hb, -, -, name⟩ := UsageReport.exists_of_mem_missing listed
  obtain ⟨-, imports, -⟩ := p.isProper_nodes_survey facts e he
  rw [← name]
  exact Binding.requestedName_ne_nil ((imports i hi).bindings b hb)

/-- A verdict on a missing export that suggests a name suggests the only one near it
among the exports of its target. The ledger of the target has an entry for it unless
it is the `*` of exports that forward all names, and as long as the target keeps its
exports, an import that asks for a name with an entry is answered. -/
theorem correction_names_export (p : Project) (facts : FactMap) {r : AnalysisReport}
    (analyzed : p.analyze facts = .ok r) {f : Classified MissingExport} (listed : f ∈ r.missing)
    {name : Text}
    (carried : didYouMean name ∈ f.verdict.suggestions ∨ f.verdict.suggestion = didYouMean name) :
    let target := f.finding.target
    ∃ n ledger, r.nodes.get? target = some n ∧
      (UsageReport.ofNodes r.nodes).ledgers.get? target = some ledger ∧
      (∀ other, ImportClassifier.NearExport n f.finding.name other ↔ other = name) ∧
      (name ∉ ledger.keys ↔ name = "*" ∧ ∀ d ∈ n.exports, d.name = name → d.isStar = true) ∧
      (name ∈ ledger.keys → ∀ nodes n', nodes.get? target = some n' → n'.exports = n.exports →
        n'.fileType = n.fileType → UsageReport.Answers nodes target name) := by
  intro target
  obtain ⟨nodes, missing, judged⟩ := judged_of_mem_missing analyzed listed
  have named : f.finding.name ≠ [] := name_ne_nil_of_mem_missing (nodes ▸ missing)
  obtain ⟨n, found, kept, -⟩ := UsageReport.exists_target_of_mem_missing missing
  have exports :
      ((p.survey facts).importClassifier p).targetExports f.finding.subject = n.exports := by
    have read : (p.survey facts).graph.nodes.get? f.finding.target = some n := nodes ▸ found
    simp [ImportClassifier.targetExports, MissingExport.subject, Survey.importClassifier,
      ImportClassifier.make, read]
  have only := ImportClassifier.similarExports_of_likelySpelling named
    (ImportClassifier.likelySpelling_of_classify judged carried)
  rw [exports] at only
  have near (other : Text) :
      ImportClassifier.NearExport n f.finding.name other ↔ other = name := by
    rw [← ImportClassifier.mem_similarExports_iff, only, List.mem_singleton]
  have declared :
      name ∈ (UsageReport.ledgerOf r.nodes target n).keys ↔
        name ∈ Ledger.declaredNames n.exports := by
    rw [UsageReport.keys_ledgerOf, List.mem_eraseDups]
  refine ⟨n, UsageReport.ledgerOf r.nodes target n, found, ?_, near, ?_, ?_⟩
  · rw [UsageReport.get?_ledgers_ofNodes, found, Option.filter_some, if_pos kept]
    rfl
  · rw [declared, Ledger.mem_declaredNames_iff]
    constructor
    · intro undeclared
      have stars : ∀ d ∈ n.exports, d.name = name → d.isStar = true := by
        intro d hd same
        by_contra plain
        exact undeclared ⟨d, hd, Bool.eq_false_iff.2 plain, same⟩
      obtain ⟨⟨d, hd, same⟩, -⟩ := (near name).2 rfl
      have star : d.kind = .reExport ∧ d.name = "*" := by
        simpa [ExportDecl.isStar] using stars d hd same
      exact ⟨same ▸ star.2, stars⟩
    · rintro ⟨-, stars⟩ ⟨d, hd, plain, same⟩
      rw [stars d hd same] at plain
      cases plain
  · intro entry nodes n' found' sameExports sameType
    refine UsageReport.answers_of_declared found' ?_ (sameExports ▸ declared.1 entry)
    rw [ModuleNode.keepsLedger, sameExports, sameType]
    exact kept

/-- One module has exports, and another one asks it for a name. -/
def askingFacts (exports : List Json) (name : Text) : FactMap :=
  .ofList
    [(.str "/p/barrel.js", .obj [("exports", .arr exports)]),
      (.str "/p/main.js", .obj [("imports", .arr [.obj [
        ("source", .str "./barrel"),
        ("line", .int 3),
        ("specifiers", .arr [.obj [("kind", .str "named"), ("localName", .str name)]])]])])]

/-- A name that is exported twice is suggested, and whoever asks for it is answered. -/
theorem correction_names_export_twice :
    let exports : List Json :=
      [.obj [("name", .str "log")], .obj [("name", .str "log"), ("kind", .str "re-export")]]
    let barrel : Text := "/p/barrel.js"
    ∃ r f ledger, analyze {} (askingFacts exports "logs") = .ok r ∧ f ∈ r.missing ∧
      didYouMean "log" ∈ f.verdict.suggestions ∧
      (UsageReport.ofNodes r.nodes).ledgers.get? barrel = some ledger ∧
      Text.ofString "log" ∈ ledger.keys ∧
      UsageReport.Answers (survey {} (askingFacts exports "log")).graph.nodes barrel "log" := by
  intro exports barrel
  have evaluated : (analyze {} (askingFacts exports "logs")).toOption.any (fun r =>
      r.missing.any fun f => f.finding.target = barrel ∧
        didYouMean "log" ∈ f.verdict.suggestions) = true := by
    decide +kernel
  obtain ⟨r, reported, evaluated⟩ := exists_ok_of_any_toOption evaluated
  obtain ⟨f, hf, evaluated⟩ := List.any_eq_true.1 evaluated
  obtain ⟨target, listed⟩ := of_decide_eq_true evaluated
  obtain ⟨n, ledger, found, hledger, -, undeclared, answers⟩ :=
    correction_names_export {} _ reported hf (.inl listed)
  rw [target] at found hledger answers
  have entry : Text.ofString "log" ∈ ledger.keys := by
    by_contra none
    exact absurd (undeclared.1 none).1 (by decide)
  have same : ((survey {} (askingFacts exports "log")).graph.nodes.get? barrel).map
      (fun n => (n.exports, n.fileType)) =
        ((survey {} (askingFacts exports "logs")).graph.nodes.get? barrel).map
          fun n => (n.exports, n.fileType) := by
    decide +kernel
  rw [(judged_of_mem_missing reported hf).1, found] at same
  obtain ⟨n', found', same⟩ := Option.map_eq_some_iff.1 same
  obtain ⟨sameExports, sameType⟩ := Prod.mk.inj same
  exact ⟨r, f, ledger, reported, hf, listed, hledger, entry,
    answers entry _ n' found' sameExports sameType⟩

/-- An export that forwards all names is suggested for the missing name `id`. It has no
entry, and a module that asks for `*` asks in vain. -/
theorem correction_names_forwarding_export :
    let exports : List Json :=
      [.obj [("name", .str "*"), ("kind", .str "re-export"), ("source", .str "./x")]]
    let barrel : Text := "/p/barrel.js"
    let star : Text := "*"
    (∃ r, analyze {} (askingFacts exports "id") = .ok r ∧
      (∃ f ∈ r.missing, f.finding.target = barrel ∧ f.verdict.suggestion = didYouMean star) ∧
      ∃ ledger, (UsageReport.ofNodes r.nodes).ledgers.get? barrel = some ledger ∧
        star ∉ ledger.keys) ∧
      ∃ r, analyze {} (askingFacts exports "*") = .ok r ∧
        ∃ f ∈ r.missing, f.finding.target = barrel ∧ f.finding.name = star := by
  intro exports barrel star
  constructor
  · have evaluated : (analyze {} (askingFacts exports "id")).toOption.any (fun r =>
        (r.missing.any fun f => f.finding.target = barrel ∧
          f.verdict.suggestion = didYouMean star) &&
        ((UsageReport.ofNodes r.nodes).ledgers.get? barrel).any fun ledger =>
          star ∉ ledger.keys) = true := by
      decide +kernel
    obtain ⟨r, reported, evaluated⟩ := exists_ok_of_any_toOption evaluated
    rw [Bool.and_eq_true, List.any_eq_true, Option.any_eq_true] at evaluated
    simp only [decide_eq_true_eq] at evaluated
    exact ⟨r, reported, evaluated⟩
  · have evaluated : (analyze {} (askingFacts exports "*")).toOption.any (fun r =>
        r.missing.any fun f => f.finding.target = barrel ∧ f.finding.name = star) = true := by
      decide +kernel
    obtain ⟨r, reported, evaluated⟩ := exists_ok_of_any_toOption evaluated
    rw [List.any_eq_true] at evaluated
    simp only [decide_eq_true_eq] at evaluated
    exact ⟨r, reported, evaluated⟩

end Project

end ModuleAudit
