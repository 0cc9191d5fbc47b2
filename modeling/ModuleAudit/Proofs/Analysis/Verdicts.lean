import ModuleAudit.Analysis
import ModuleAudit.Proofs.DependencyGraph.Mirror
import ModuleAudit.Proofs.Record.Acceptance
import ModuleAudit.Proofs.Signal

/-!
# When there is a report

A verdict fails when a score is too large for a confidence, or when the only
module near a misspelt one has the empty path. The modules of a fact map have
absolute paths, so that the verdicts of an analysis can fail for the first reason only:
they do exactly when one of the findings has too large a score. A report is put
together from the survey and the three lists of judged findings.

Besides, an analysis gives up where its machine does: on a value in the facts that it is
about to show, on a manifest that it is about to search, and on a threshold that it is
about to log. Each of these comes at its own stage, and the first of them counts.
-/

namespace ModuleAudit

/-! ## Judging findings -/

/-- Findings that are to be judged, with what the verdicts follow from. -/
structure Docket (α : Type) where
  findings : List α
  evaluate : α → Evaluation
  advise : α → Text

namespace Docket

variable {α : Type}

/-- The evaluations of the findings, in order. -/
def evaluations (d : Docket α) : List Evaluation := d.findings.map d.evaluate

/-- The findings have been judged one by one, each by its evaluation. -/
def Judged (d : Docket α) (judged : List (Classified α)) : Prop :=
  List.Forall₂ (fun f c => c.finding = f ∧ c.verdict.Follows (d.evaluate f) (d.advise f))
    d.findings judged

theorem Judged.follows {d : Docket α} {judged : List (Classified α)} (h : d.Judged judged)
    {c : Classified α} (hc : c ∈ judged) :
    c.verdict.Follows (d.evaluate c.finding) (d.advise c.finding) := by
  unfold Judged at h
  generalize d.findings = findings at h
  induction h with
  | nil => cases hc
  | cons first _ ih =>
    rcases List.mem_cons.1 hc with rfl | hc
    · exact first.1 ▸ first.2
    · exact ih hc

variable {d : Docket α} {judge : α → Except VerdictError Verdict}

theorem classifyAll_eq_ok_iff
    (judges : ∀ f, judge f = Verdict.ofEvaluation (d.evaluate f) (d.advise f))
    {judged : List (Classified α)} :
    Survey.classifyAll judge d.findings = .ok judged ↔
      (∀ e ∈ d.evaluations, e.score.natAbs < Confidence.overflowBound) ∧ d.Judged judged := by
  have one_iff (f : α) (c : Classified α) :
      (do
        let verdict ← judge f
        return { finding := f, verdict } : Except VerdictError (Classified α)) = .ok c ↔
        (d.evaluate f).score.natAbs < Confidence.overflowBound ∧
          c.finding = f ∧ c.verdict.Follows (d.evaluate f) (d.advise f) := by
    rw [judges]
    constructor
    · intro made
      obtain ⟨verdict, verdict_eq, made⟩ := ok_steps_of_bind made
      cases made
      obtain ⟨below, follows⟩ := Verdict.ofEvaluation_eq_ok_iff.1 verdict_eq
      exact ⟨below, rfl, follows⟩
    · rintro ⟨below, rfl, follows⟩
      exact bind_of_ok_steps (Verdict.ofEvaluation_eq_ok_iff.2 ⟨below, follows⟩) rfl
  rw [Survey.classifyAll, mapM_eq_ok_iff, evaluations, List.forall_mem_map]
  simp only [one_iff]
  exact List.forall₂_and_left d.findings judged

/-- Judging findings fails exactly when one of them has too large a score. -/
theorem classifyAll_eq_error_iff
    (judges : ∀ f, judge f = Verdict.ofEvaluation (d.evaluate f) (d.advise f))
    {error : VerdictError} :
    Survey.classifyAll judge d.findings = .error error ↔ error = .scoreOverflow ∧
      ∃ e ∈ d.evaluations, Confidence.overflowBound ≤ e.score.natAbs := by
  have fails {error : VerdictError} (failed : Survey.classifyAll judge d.findings = .error error) :
      error = .scoreOverflow ∧
        ∃ e ∈ d.evaluations, Confidence.overflowBound ≤ e.score.natAbs := by
    obtain ⟨f, listed, failed⟩ := exists_of_mapM_eq_error failed
    rw [judges] at failed
    rcases error_steps_of_bind failed with failed | ⟨verdict, -, made⟩
    · obtain ⟨same, overflow⟩ := Verdict.ofEvaluation_eq_error_iff.1 failed
      exact ⟨same, _, List.mem_map_of_mem listed, overflow⟩
    · cases made
  refine ⟨fails, ?_⟩
  rintro ⟨rfl, e, listed, overflow⟩
  cases result : Survey.classifyAll judge d.findings with
  | error error => rw [(fails result).1]
  | ok judged =>
    have below := ((classifyAll_eq_ok_iff judges).1 result).1 e listed
    exact absurd below (Nat.not_lt.2 overflow)

end Docket

namespace ImportClassifier

/-- Absolute paths are not empty, so a similar module has a specifier. -/
theorem meetsEmptyPath_eq_false {c : ImportClassifier} {r : Resolver}
    (resolver : c.resolver = some r)
    (absolute : ∀ path ∈ r.paths, Path.isAbsolute path = true) (s : ImportSubject) :
    c.meetsEmptyPath s = false := by
  have proper : [] ∉ c.similarModules s := by
    intro member
    rw [similarModules, resolver] at member
    dsimp only at member
    split at member
    · cases member
    · exact absurd (absolute [] (List.mem_of_mem_filter member)) (by decide)
  rw [meetsEmptyPath, Bool.and_eq_false_imp]
  intro _
  rw [beq_eq_false_iff_ne]
  exact fun only => proper (only ▸ List.mem_singleton_self [])

end ImportClassifier

namespace Survey

variable (s : Survey) (p : Project)

section Assemble

variable (unused : List (Classified UnusedExport)) (missing : List (Classified MissingExport))
  (unresolved : List (Classified UnresolvedImport))

@[simp] theorem root_assemble : (s.assemble p unused missing unresolved).root = s.root := rfl

@[simp] theorem nodes_assemble :
    (s.assemble p unused missing unresolved).nodes = s.graph.nodes := rfl

@[simp] theorem cycleDetails_assemble :
    (s.assemble p unused missing unresolved).cycleDetails =
      whenOn p.settings.checks.circularDependencies s.cycleDetails := rfl

@[simp] theorem components_assemble :
    (s.assemble p unused missing unresolved).components =
      whenOn p.settings.checks.circularDependencies s.graph.links.cyclicComponents := rfl

@[simp] theorem coupled_assemble :
    (s.assemble p unused missing unresolved).coupled =
      whenOn p.settings.checks.coupling.enabled (s.couplingMeter p).findings := rfl

@[simp] theorem profile_assemble :
    (s.assemble p unused missing unresolved).profile = (s.couplingMeter p).profile := rfl

@[simp] theorem errors_assemble :
    (s.assemble p unused missing unresolved).errors = s.recordErrors ++ s.graph.errors := rfl

end Assemble

/-- There is a report exactly when every finding has its verdict. -/
theorem judged_eq_ok_iff {r : AnalysisReport} :
    s.judged p = .ok r ↔ ∃ unused missing unresolved, s.judgedUnused p = .ok unused ∧
      s.judgedMissing p = .ok missing ∧ s.judgedUnresolved p = .ok unresolved ∧
      r = s.assemble p unused missing unresolved := by
  rw [judged]
  constructor
  · intro h
    obtain ⟨unused, hunused, h⟩ := ok_steps_of_bind h
    obtain ⟨missing, hmissing, h⟩ := ok_steps_of_bind h
    obtain ⟨unresolved, hunresolved, h⟩ := ok_steps_of_bind h
    exact ⟨unused, missing, unresolved, hunused, hmissing, hunresolved, (Except.ok.inj h).symm⟩
  · rintro ⟨unused, missing, unresolved, hunused, hmissing, hunresolved, rfl⟩
    rw [hunused, hmissing, hunresolved]
    rfl

/-- What comes before and behind the verdicts does not look at the report. -/
theorem map_report (view : AnalysisReport → AnalysisReport) :
    (s.report p).map view =
      if p.settings.checks.unusedExports && !EntryPoint.canSearch p.limits p.manifest then
        .error .manifest
      else do
        let report ← ((s.judged p).map view).mapError .verdict
        let _ ← (s.couplingJournal p).mapError .coupling
        return report := by
  rw [report]
  split
  · rfl
  · cases s.judged p with
    | error error => rfl
    | ok r => cases s.couplingJournal p <;> rfl

/-- The unused exports, if they are looked for. -/
def unusedDocket : Docket UnusedExport where
  findings := whenOn p.settings.checks.unusedExports (UsageReport.ofNodes s.graph.nodes).unused
  evaluate := Evaluation.ofSignals (s.exportClassifier p).signals
  advise f :=
    let e := Evaluation.ofSignals (s.exportClassifier p).signals f
    ExportClassifier.advice e.score e.reasons

/-- The missing exports, if they are looked for. -/
def missingDocket : Docket MissingExport where
  findings := whenOn p.settings.checks.missingExports (UsageReport.ofNodes s.graph.nodes).missing
  evaluate f := Evaluation.ofSignals (s.importClassifier p).signals f.subject
  advise f :=
    ImportClassifier.advice (Evaluation.ofSignals (s.importClassifier p).signals f.subject)
      f.subject

def unresolvedDocket : Docket UnresolvedImport where
  findings := s.unresolved
  evaluate f := Evaluation.ofSignals (s.importClassifier p).signals f.subject
  advise f :=
    ImportClassifier.advice (Evaluation.ofSignals (s.importClassifier p).signals f.subject)
      f.subject

/-- The evaluations of all findings that are judged. -/
def evaluations : List Evaluation :=
  (s.unusedDocket p).evaluations ++ (s.missingDocket p).evaluations ++
    (s.unresolvedDocket p).evaluations

/-- Whether a report is the one on a survey, with all findings judged. -/
structure Reports (r : AnalysisReport) : Prop where
  unused : (s.unusedDocket p).Judged r.unused
  missing : (s.missingDocket p).Judged r.missing
  unresolved : (s.unresolvedDocket p).Judged r.unresolved
  assembled : r = s.assemble p r.unused r.missing r.unresolved

theorem unused_judges (f : UnusedExport) :
    (s.exportClassifier p).classify f =
      Verdict.ofEvaluation ((s.unusedDocket p).evaluate f) ((s.unusedDocket p).advise f) :=
  rfl

end Survey

namespace Project

variable (p : Project) (facts : FactMap)

/-- The classifier of a survey knows the paths of the accepted modules. -/
theorem meetsEmptyPath_survey (s : ImportSubject) :
    ((p.survey facts).importClassifier p).meetsEmptyPath s = false :=
  ImportClassifier.meetsEmptyPath_eq_false rfl (fun _ known => facts.isAbsolute_of_mem_keys known) s

theorem classify_survey (subject : ImportSubject) :
    let c := (p.survey facts).importClassifier p
    let e := Evaluation.ofSignals c.signals subject
    c.classify subject = Verdict.ofEvaluation e (ImportClassifier.advice e subject) := by
  intro c e
  rw [ImportClassifier.classify, meetsEmptyPath_survey]
  rfl

theorem missing_judges (f : MissingExport) :
    ((p.survey facts).importClassifier p).classify f.subject =
      Verdict.ofEvaluation (((p.survey facts).missingDocket p).evaluate f)
        (((p.survey facts).missingDocket p).advise f) :=
  p.classify_survey facts f.subject

theorem unresolved_judges (f : UnresolvedImport) :
    ((p.survey facts).importClassifier p).classify f.subject =
      Verdict.ofEvaluation (((p.survey facts).unresolvedDocket p).evaluate f)
        (((p.survey facts).unresolvedDocket p).advise f) :=
  p.classify_survey facts f.subject

/-- Every finding has its verdict exactly when no score is too large. The report is put
together from the verdicts that follow the evaluations of the findings. -/
theorem judged_survey_eq_ok_iff {r : AnalysisReport} :
    (p.survey facts).judged p = .ok r ↔
      (∀ e ∈ (p.survey facts).evaluations p, e.score.natAbs < Confidence.overflowBound) ∧
        (p.survey facts).Reports p r := by
  rw [Survey.judged_eq_ok_iff, Survey.evaluations, List.forall_mem_append,
    List.forall_mem_append]
  constructor
  · rintro ⟨unused, missing, unresolved, hunused, hmissing, hunresolved, rfl⟩
    obtain ⟨unusedBelow, unusedJudged⟩ :=
      (Docket.classifyAll_eq_ok_iff ((p.survey facts).unused_judges p)).1 hunused
    obtain ⟨missingBelow, missingJudged⟩ :=
      (Docket.classifyAll_eq_ok_iff (p.missing_judges facts)).1 hmissing
    obtain ⟨unresolvedBelow, unresolvedJudged⟩ :=
      (Docket.classifyAll_eq_ok_iff (p.unresolved_judges facts)).1 hunresolved
    exact ⟨⟨⟨unusedBelow, missingBelow⟩, unresolvedBelow⟩,
      ⟨unusedJudged, missingJudged, unresolvedJudged, rfl⟩⟩
  · rintro ⟨⟨⟨unusedBelow, missingBelow⟩, unresolvedBelow⟩, reports⟩
    exact ⟨r.unused, r.missing, r.unresolved,
      (Docket.classifyAll_eq_ok_iff ((p.survey facts).unused_judges p)).2
        ⟨unusedBelow, reports.unused⟩,
      (Docket.classifyAll_eq_ok_iff (p.missing_judges facts)).2 ⟨missingBelow, reports.missing⟩,
      (Docket.classifyAll_eq_ok_iff (p.unresolved_judges facts)).2
        ⟨unresolvedBelow, reports.unresolved⟩,
      reports.assembled⟩

/-- Judging a survey fails exactly when a finding has too large a score. -/
theorem judged_survey_eq_error_iff {error : VerdictError} :
    (p.survey facts).judged p = .error error ↔ error = .scoreOverflow ∧
      ∃ e ∈ (p.survey facts).evaluations p, Confidence.overflowBound ≤ e.score.natAbs := by
  have fails {error : VerdictError} (failed : (p.survey facts).judged p = .error error) :
      error = .scoreOverflow ∧
        ∃ e ∈ (p.survey facts).evaluations p, Confidence.overflowBound ≤ e.score.natAbs := by
    simp only [Survey.evaluations, List.mem_append]
    rcases error_steps_of_bind failed with unused | ⟨_, -, failed⟩
    · obtain ⟨same, e, listed, overflow⟩ :=
        (Docket.classifyAll_eq_error_iff ((p.survey facts).unused_judges p)).1 unused
      exact ⟨same, e, .inl (.inl listed), overflow⟩
    rcases error_steps_of_bind failed with missing | ⟨_, -, failed⟩
    · obtain ⟨same, e, listed, overflow⟩ :=
        (Docket.classifyAll_eq_error_iff (p.missing_judges facts)).1 missing
      exact ⟨same, e, .inl (.inr listed), overflow⟩
    rcases error_steps_of_bind failed with unresolved | ⟨_, -, failed⟩
    · obtain ⟨same, e, listed, overflow⟩ :=
        (Docket.classifyAll_eq_error_iff (p.unresolved_judges facts)).1 unresolved
      exact ⟨same, e, .inr listed, overflow⟩
    · cases failed
  refine ⟨fails, ?_⟩
  rintro ⟨rfl, e, listed, overflow⟩
  cases result : (p.survey facts).judged p with
  | error error => rw [(fails result).1]
  | ok r =>
    have below := ((p.judged_survey_eq_ok_iff facts).1 result).1 e listed
    exact absurd below (Nat.not_lt.2 overflow)

/-! ## Stages of an analysis -/

/-- The manifest is not searched, or it is not nested too deep for that. -/
def ManifestSearched : Prop :=
  p.settings.checks.unusedExports = true → EntryPoint.canSearch p.limits p.manifest = true

/-- Coupled modules are not looked for, or the threshold can be logged. -/
def ThresholdLogged : Prop :=
  p.settings.checks.coupling.enabled = true →
    Json.isLong p.limits p.settings.checks.coupling.threshold = false

/-- Nothing that an analysis shows or searches is beyond the limits. -/
structure Unhindered : Prop where
  readable : facts.obstacle? p.limits = none
  searched : p.ManifestSearched
  logged : p.ThresholdLogged

/-- Why an analysis fails. Whatever comes earlier has gone well. -/
def FailsBy : AnalysisError → Prop
  | .facts reason => facts.obstacle? p.limits = some reason
  | .manifest => facts.obstacle? p.limits = none ∧ ¬ p.ManifestSearched
  | .verdict error => facts.obstacle? p.limits = none ∧ p.ManifestSearched ∧
      error = .scoreOverflow ∧
      ∃ e ∈ (p.survey facts).evaluations p, Confidence.overflowBound ≤ e.score.natAbs
  | .coupling reason => facts.obstacle? p.limits = none ∧ p.ManifestSearched ∧
      (∀ e ∈ (p.survey facts).evaluations p, e.score.natAbs < Confidence.overflowBound) ∧
      reason = .longInteger ∧ ¬ p.ThresholdLogged

/-- How an analysis may go, stage by stage. -/
inductive Course : Except AnalysisError AnalysisReport → Prop
  | unread {reason : ShowError} (obstacle : facts.obstacle? p.limits = some reason) :
      Course (.error (.facts reason))
  | unsearched (readable : facts.obstacle? p.limits = none) (deep : ¬ p.ManifestSearched) :
      Course (.error .manifest)
  | unjudged (readable : facts.obstacle? p.limits = none) (searched : p.ManifestSearched)
      {error : VerdictError} (judged : (p.survey facts).judged p = .error error) :
      Course (.error (.verdict error))
  | unlogged (readable : facts.obstacle? p.limits = none) (searched : p.ManifestSearched)
      {r : AnalysisReport} (judged : (p.survey facts).judged p = .ok r)
      (long : ¬ p.ThresholdLogged) : Course (.error (.coupling .longInteger))
  | reported (unhindered : p.Unhindered facts) {r : AnalysisReport}
      (judged : (p.survey facts).judged p = .ok r) : Course (.ok r)

theorem couplingJournal_cases (s : Survey) :
    (p.ThresholdLogged ∧ ∃ lines, s.couplingJournal p = .ok lines) ∨
      ¬ p.ThresholdLogged ∧ s.couplingJournal p = .error .longInteger := by
  unfold ThresholdLogged Survey.couplingJournal
  cases p.settings.checks.coupling.enabled with
  | false => exact .inl ⟨fun off => (Bool.false_ne_true off).elim, [], rfl⟩
  | true =>
    rw [if_pos rfl, CouplingMeter.journal, Survey.couplingMeter]
    cases Json.isLong p.limits p.settings.checks.coupling.threshold with
    | false => exact .inl ⟨fun _ => rfl, _, rfl⟩
    | true => exact .inr ⟨fun logged => Bool.false_ne_true (logged rfl).symm, rfl⟩

theorem manifestSearched_iff :
    p.ManifestSearched ↔ (p.settings.checks.unusedExports &&
      !EntryPoint.canSearch p.limits p.manifest) = false := by
  rw [ManifestSearched, Bool.and_eq_false_imp]
  simp only [Bool.not_eq_false_eq_eq_true]

/-- An analysis takes its stages one after the other. -/
theorem analyze_course : p.Course facts (p.analyze facts) := by
  rw [analyze]
  cases obstacle : facts.obstacle? p.limits with
  | some reason => exact .unread obstacle
  | none =>
    dsimp only
    rw [Survey.report]
    split
    · rename_i deep
      exact .unsearched obstacle fun searched => by
        rw [p.manifestSearched_iff.1 searched] at deep
        cases deep
    · rename_i searchable
      have searched : p.ManifestSearched := p.manifestSearched_iff.2 (by simpa using searchable)
      cases judged : (p.survey facts).judged p with
      | error error => exact .unjudged obstacle searched judged
      | ok r =>
        obtain ⟨logged, lines, found⟩ | ⟨long, failed⟩ := p.couplingJournal_cases (p.survey facts)
        · rw [found]
          exact .reported ⟨obstacle, searched, logged⟩ judged
        · rw [failed]
          exact .unlogged obstacle searched judged long

variable {p facts}

/-- There is a report exactly when nothing hinders the analysis and every finding has its
verdict. -/
theorem analyze_eq_ok_iff {r : AnalysisReport} :
    p.analyze facts = .ok r ↔ p.Unhindered facts ∧ (p.survey facts).judged p = .ok r := by
  have course := p.analyze_course facts
  constructor
  · intro h
    rw [h] at course
    cases course with
    | reported unhindered judged => exact ⟨unhindered, judged⟩
  · rintro ⟨unhindered, judged⟩
    generalize p.analyze facts = outcome at course
    cases course with
    | unread obstacle => cases obstacle.symm.trans unhindered.readable
    | unsearched _ deep => exact absurd unhindered.searched deep
    | unjudged _ _ failed => cases failed.symm.trans judged
    | unlogged _ _ _ long => exact absurd unhindered.logged long
    | reported _ judged' =>
      cases judged'.symm.trans judged
      rfl

/-- A report is put together from the survey and the judged findings. -/
theorem assembled_of_analyze {r : AnalysisReport} (reported : p.analyze facts = .ok r) :
    ∃ unused missing unresolved, (p.survey facts).judgedUnused p = .ok unused ∧
      (p.survey facts).judgedMissing p = .ok missing ∧
      (p.survey facts).judgedUnresolved p = .ok unresolved ∧
      r = (p.survey facts).assemble p unused missing unresolved :=
  ((p.survey facts).judged_eq_ok_iff p).1 (analyze_eq_ok_iff.1 reported).2

/-- An analysis fails exactly for the reasons of its stages. -/
theorem analyze_eq_error_iff {error : AnalysisError} :
    p.analyze facts = .error error ↔ p.FailsBy facts error := by
  have course := p.analyze_course facts
  constructor
  · intro h
    rw [h] at course
    cases course with
    | unread obstacle => exact obstacle
    | unsearched readable deep => exact ⟨readable, deep⟩
    | unjudged readable searched judged =>
      exact ⟨readable, searched, (p.judged_survey_eq_error_iff facts).1 judged⟩
    | unlogged readable searched judged long =>
      exact ⟨readable, searched, ((p.judged_survey_eq_ok_iff facts).1 judged).1, rfl, long⟩
  · intro fails
    generalize p.analyze facts = outcome at course
    cases course with
    | unread obstacle =>
      cases error with
      | facts reason => cases obstacle.symm.trans fails; rfl
      | _ => cases obstacle.symm.trans fails.1
    | unsearched readable deep =>
      cases error with
      | facts reason => cases readable.symm.trans fails
      | manifest => rfl
      | _ => exact absurd fails.2.1 deep
    | unjudged readable searched judged =>
      obtain ⟨rfl, e, listed, overflow⟩ := (p.judged_survey_eq_error_iff facts).1 judged
      cases error with
      | facts reason => cases readable.symm.trans fails
      | manifest => exact absurd searched fails.2
      | verdict error => rw [fails.2.2.1]
      | coupling reason => exact absurd overflow (Nat.not_le.2 (fails.2.2.1 e listed))
    | unlogged readable searched judged long =>
      have below := ((p.judged_survey_eq_ok_iff facts).1 judged).1
      cases error with
      | facts reason => cases readable.symm.trans fails
      | manifest => exact absurd searched fails.2
      | verdict error =>
        obtain ⟨-, -, -, e, listed, overflow⟩ := fails
        exact absurd overflow (Nat.not_le.2 (below e listed))
      | coupling reason => rw [fails.2.2.2.1]
    | reported unhindered judged =>
      have below := ((p.judged_survey_eq_ok_iff facts).1 judged).1
      cases error with
      | facts reason => cases unhindered.readable.symm.trans fails
      | manifest => exact absurd unhindered.searched fails.2
      | verdict error =>
        obtain ⟨-, -, -, e, listed, overflow⟩ := fails
        exact absurd overflow (Nat.not_le.2 (below e listed))
      | coupling reason => exact absurd unhindered.logged fails.2.2.2.2

end Project

end ModuleAudit
