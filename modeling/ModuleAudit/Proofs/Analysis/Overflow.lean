import Mathlib.Algebra.Order.Field.Basic
import ModuleAudit.Proofs.Analysis.Verdicts
import ModuleAudit.Proofs.Coupling.Profile
import ModuleAudit.Proofs.Settings.Sections

/-!
# When an analysis fails

Of all that an analysis computes, only the confidence in a score can fail, and it does so
when a tenth of the score has no double. With settings that were read leniently, from
whatever document, an analysis within the limits of its machine therefore fails for the
size of a score or gives a report on everything it found. Every confidence in it is a tenth
of its score, or one.

The limits are those of showing and searching values. Where they are exceeded the analysis
fails at the stage that does so.
-/

namespace ModuleAudit

/-- The confidence that follows from an evaluation, as a number. -/
theorem Verdict.Follows.confidence_eq {v : Verdict} {e : Evaluation} {advice : Text}
    (follows : v.Follows e advice) :
    (v.confidence.tenths : ℚ) / 10 = min (|(v.score : ℚ)| / 10) 1 := by
  have size : ((e.score.natAbs : Nat) : ℚ) = |(e.score : ℚ)| := by
    rw [Nat.cast_natAbs, Int.cast_abs]
  rw [follows.confidence, follows.score, Nat.cast_min, size, Nat.cast_ofNat,
    ← min_div_div_right (by norm_num), div_self (by norm_num)]

def AnalysisReport.verdicts (r : AnalysisReport) : List Verdict :=
  r.unused.map Classified.verdict ++ r.missing.map Classified.verdict ++
    r.unresolved.map Classified.verdict

/-- Each confidence in a list of judged findings, as a number. -/
theorem Docket.Judged.confidence_eq {α : Type} {d : Docket α} {judged : List (Classified α)}
    (h : d.Judged judged) {v : Verdict} (listed : v ∈ judged.map Classified.verdict) :
    (v.confidence.tenths : ℚ) / 10 = min (|(v.score : ℚ)| / 10) 1 := by
  obtain ⟨c, hc, rfl⟩ := List.mem_map.1 listed
  exact (h.follows hc).confidence_eq

namespace Survey.Reports

variable {s : Survey} {p : Project} {r : AnalysisReport} (reports : s.Reports p r)

include reports

theorem confidence_eq {v : Verdict} (listed : v ∈ r.verdicts) :
    (v.confidence.tenths : ℚ) / 10 = min (|(v.score : ℚ)| / 10) 1 := by
  rw [AnalysisReport.verdicts, List.mem_append, List.mem_append] at listed
  rcases listed with (unused | missing) | unresolved
  · exact reports.unused.confidence_eq unused
  · exact reports.missing.confidence_eq missing
  · exact reports.unresolved.confidence_eq unresolved

end Survey.Reports

namespace Project

instance (p : Project) : Decidable p.ManifestSearched :=
  inferInstanceAs (Decidable (_ → _))

instance (p : Project) : Decidable p.ThresholdLogged :=
  inferInstanceAs (Decidable (_ → _))

instance (p : Project) (facts : FactMap) : Decidable (p.Unhindered facts) :=
  decidable_of_iff
    (facts.obstacle? p.limits = none ∧ p.ManifestSearched ∧ p.ThresholdLogged)
    ⟨fun h => ⟨h.1, h.2.1, h.2.2⟩, fun h => ⟨h.readable, h.searched, h.logged⟩⟩

def threshold (limit : Nat) : Json :=
  .obj [("analysis", .obj [("coupling", .obj [("threshold", .int limit)])])]

end Project

end ModuleAudit
