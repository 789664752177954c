import CoursePlan.Proofs.Distinct
import CoursePlan.Proofs.Review.Findings
import Mathlib.Data.List.Perm.Basic

/-!
# Findings without repeats

Taking out repeats leaves the first finding with each key and nothing else
(`Finding.dedup_keeps_first`).

A report does so in its two lists, after findings were split by severity.  The key of a finding does
not name its severity, so that in general a repeat can be found in both lists.  Where the key
decides whether a finding is an error, the split and the taking out of repeats can change places
(`Report.dedup_ofFindings`), and a report shows no key twice (`Report.nodup_keys_dedup`).  In the
findings of a review, severity follows kind, which is part of the key (`Report.dedup_split`).
-/

namespace CoursePlan

/-! ## Lists of findings -/

namespace Finding

/-- What is kept of some findings is the first with each key. -/
structure KeepsFirst (fs kept : List Finding) : Prop where
  /-- What is kept stays in order. -/
  sublist : kept.Sublist fs
  /-- No key is kept twice. -/
  nodup_keys : (kept.map key).Nodup
  /-- No key is lost. -/
  mem_keys : ∀ k, k ∈ kept.map key ↔ k ∈ fs.map key
  /-- Kept is the first finding with the key, with all that it says. -/
  mem_iff : ∀ f, f ∈ kept ↔ fs.find? (fun g => decide (g.key = f.key)) = some f

/-- Without repeats, a list keeps the first finding with each key. -/
theorem keepsFirst_dedup (fs : List Finding) : KeepsFirst fs (dedup fs) where
  sublist := firstBy_sublist key fs
  nodup_keys := nodup_map_firstBy key fs
  mem_keys k := mem_map_firstBy key k fs
  mem_iff f := mem_firstBy key f fs

/-- **Of repeats, the first is kept.**  Repeats are taken out in one pass, with the keys met so far
in a set.  What is left are the first findings with each key, in order.  Doing it again changes
nothing; and of findings that follow others, those stay whose key the others do not have. -/
theorem dedup_keeps_first (fs gs : List Finding) :
    fs.foldl (keepNew key) (∅, []) = ((fs.map key).toFinset, dedup fs) ∧
      KeepsFirst fs (dedup fs) ∧
      dedup (dedup fs) = dedup fs ∧
      dedup (fs ++ gs) =
        dedup fs ++ (dedup gs).filter (fun g => fs.all fun f => decide (g.key ≠ f.key)) :=
  ⟨foldl_keepNew key fs, keepsFirst_dedup fs, firstBy_firstBy key fs, firstBy_append key fs gs⟩

end Finding

/-! ## Reports -/

namespace Report

variable {fs : List Finding}

/-- A report has its findings, each as often as it was found. -/
theorem findings_ofFindings_perm (fs : List Finding) : (ofFindings fs).findings.Perm fs :=
  List.filter_append_perm Finding.isError fs

/-- A report with errors in one list and no errors in the other is the report on its findings. -/
theorem ofFindings_findings {r : Report} (herrors : ∀ f ∈ r.errors, f.isError = true)
    (hwarnings : ∀ f ∈ r.warnings, f.isError = false) : ofFindings r.findings = r := by
  have hnone : r.warnings.filter Finding.isError = [] := by
    simpa [List.filter_eq_nil_iff] using hwarnings
  have hnone' : r.errors.filter (fun f => !f.isError) = [] := by
    simpa [List.filter_eq_nil_iff] using herrors
  have hall : r.errors.filter Finding.isError = r.errors := List.filter_eq_self.2 herrors
  have hall' : r.warnings.filter (fun f => !f.isError) = r.warnings := by
    simpa [List.filter_eq_self] using hwarnings
  simp [ofFindings, findings, hnone, hnone', hall, hall']

/-- After repeats are taken out, errors and other findings are still apart. -/
theorem ofFindings_findings_dedup (fs : List Finding) :
    ofFindings (ofFindings fs).dedup.findings = (ofFindings fs).dedup := by
  apply ofFindings_findings
  · intro f hf
    exact (List.mem_filter.1 ((firstBy_sublist Finding.key _).subset hf)).2
  · intro f hf
    simpa using (List.mem_filter.1 ((firstBy_sublist Finding.key _).subset hf)).2

theorem dedup_dedup (r : Report) : r.dedup.dedup = r.dedup := by
  simp only [dedup, Finding.dedup, firstBy_firstBy]

/-- The key of a finding, and whether the finding is an error. -/
def verdict (f : Finding) : (CourseCode × FindingKind × String) × Bool :=
  (f.key, f.isError)

/-- Among findings of which all or none are errors, the key tells the verdict. -/
theorem mem_verdicts_dedup {fs : List Finding} {e : Bool} (h : ∀ f ∈ fs, f.isError = e)
    {v : (CourseCode × FindingKind × String) × Bool} :
    v ∈ (Finding.dedup fs).map verdict ↔ v ∈ fs.map verdict := by
  have hverdict : ∀ gs : List Finding, (∀ g ∈ gs, g.isError = e) →
      gs.map verdict = (gs.map Finding.key).map (·, e) := by
    intro gs hgs
    rw [List.map_map]
    apply List.map_congr_left
    intro g hg
    show (g.key, g.isError) = (g.key, e)
    rw [hgs g hg]
  have hkept : ∀ f ∈ Finding.dedup fs, f.isError = e :=
    fun f hf => h f ((firstBy_sublist Finding.key fs).subset hf)
  rw [hverdict fs h, hverdict _ hkept, List.mem_map, List.mem_map]
  simp only [Finding.dedup, mem_map_firstBy]

/-- No key is lost, neither from the errors nor from the other findings. -/
theorem mem_verdicts_dedup_ofFindings {v : (CourseCode × FindingKind × String) × Bool} :
    v ∈ (ofFindings fs).dedup.findings.map verdict ↔ v ∈ fs.map verdict := by
  have herrors : ∀ f ∈ fs.filter Finding.isError, f.isError = true :=
    fun f hf => (List.mem_filter.1 hf).2
  have hwarnings : ∀ f ∈ fs.filter (fun f => !f.isError), f.isError = false :=
    fun f hf => by simpa using (List.mem_filter.1 hf).2
  rw [← ((findings_ofFindings_perm fs).map verdict).mem_iff, findings, findings, List.map_append,
    List.map_append, List.mem_append, List.mem_append]
  exact or_congr (mem_verdicts_dedup herrors) (mem_verdicts_dedup hwarnings)

section Sides

variable (hsides : ∀ f ∈ fs, ∀ g ∈ fs, f.key = g.key → f.isError = g.isError)

include hsides

/-- **Repeats may as well be taken out before findings are split.** -/
theorem dedup_ofFindings : (ofFindings fs).dedup = ofFindings (Finding.dedup fs) := by
  have hsides' : ∀ f ∈ fs, ∀ g ∈ fs, f.key = g.key → (!f.isError) = !g.isError := by
    intro f hf g hg hkey
    rw [hsides f hf g hg hkey]
  show Report.mk (firstBy _ (fs.filter _)) (firstBy _ (fs.filter _)) = _
  rw [firstBy_filter Finding.key hsides, firstBy_filter Finding.key hsides']
  rfl

/-- No key is shown twice, be it in one list or in both. -/
theorem nodup_keys_dedup : (ofFindings fs).dedup.keys.Nodup := by
  rw [dedup_ofFindings hsides]
  apply ((findings_ofFindings_perm _).map Finding.key).nodup_iff.2
  exact nodup_map_firstBy Finding.key fs

/-- What is shown is the first finding with each key. -/
theorem mem_findings_dedup {f : Finding} :
    f ∈ (ofFindings fs).dedup.findings ↔ f ∈ Finding.dedup fs := by
  rw [dedup_ofFindings hsides, mem_findings_ofFindings]

end Sides

end Report

/-- The key of a finding of a sweep decides whether it is an error. -/
theorem Plan.isError_eq_of_mem_sweep {p : Plan} {threshold : Nat} {f g : Finding}
    (hf : f ∈ p.sweep threshold) (hg : g ∈ p.sweep threshold) (hkey : f.key = g.key) :
    f.isError = g.isError := by
  have hkind : f.kind = g.kind := congrArg (fun k => k.2.1) hkey
  rw [Finding.isError, Finding.isError, severity_of_mem_sweep hf, severity_of_mem_sweep hg, hkind]

namespace Report

/-- **Repeats and severities.**  Whatever severities some findings have, taking out repeats from the
report on them does not change the verdict, leaves errors and other findings apart, loses no key
from either of them, and changes nothing when it is done again.  If severity follows kind in the
findings, then repeats may as well be taken out before the report is made; that is so in all that
the rules find, and so in the review of every plan. -/
theorem dedup_split (fs : List Finding) :
    (ofFindings fs).dedup.isValid = (ofFindings fs).isValid ∧
      (ofFindings fs).dedup.dedup = (ofFindings fs).dedup ∧
      ofFindings (ofFindings fs).dedup.findings = (ofFindings fs).dedup ∧
      (∀ v, v ∈ (ofFindings fs).dedup.findings.map verdict ↔ v ∈ fs.map verdict) ∧
      ((∀ f ∈ fs, ∀ g ∈ fs, f.kind = g.kind → f.severity = g.severity) →
        (ofFindings fs).dedup = ofFindings (Finding.dedup fs)) ∧
      (∀ (p : Plan) threshold index c before, ∀ f ∈ p.check threshold index c before,
        f.severity = f.kind.severity) ∧
      ∀ (p : Plan) threshold,
        p.review threshold = ofFindings (Finding.dedup (p.sweep threshold)) := by
  refine ⟨isValid_dedup _, dedup_dedup _, ofFindings_findings_dedup fs,
    fun _ => mem_verdicts_dedup_ofFindings, ?_, ?_, ?_⟩
  · intro hseverity
    apply dedup_ofFindings
    intro f hf g hg hkey
    have hkind : f.kind = g.kind := congrArg (fun k => k.2.1) hkey
    rw [Finding.isError, Finding.isError, hseverity f hf g hg hkind]
  · intro p threshold index c before f hf
    exact Plan.severity_of_mem_check hf
  · intro p threshold
    exact dedup_ofFindings fun _ hf _ hg => Plan.isError_eq_of_mem_sweep hf hg

/-- `STAT 230`, which has no requisites. -/
def plainCourse : Course :=
  Course.new (.drawn 0) ⟨['S', 'T', 'A', 'T'], ['2', '3', '0'], by decide, by decide⟩

/-- A finding about that course, with its own severity. -/
def remark (kind : FindingKind) (severity : Severity) (details : String) : Finding :=
  ⟨kind, severity, plainCourse.code, "remark", some details⟩

/-- Overloads as errors and prerequisites as mere information, some of them repeated. -/
def unusualFindings : List Finding :=
  [remark .prerequisite .info "first", remark .overload .error "first",
    remark .prerequisite .info "second", remark .overload .error "second"]

/-- What is found about the course in a term that must stay empty. -/
def plainOverload : Finding :=
  .new .overload plainCourse.code "Term overload: 1 courses"
    "This term has more than 0 courses. Consider redistributing courses to maintain balance."

/-- Findings whose severities are not those of their kinds, and one that is usual. -/
theorem dedup_split_unusualFindings :
    ((∀ f ∈ unusualFindings, ∀ g ∈ unusualFindings, f.kind = g.kind → f.severity = g.severity) ∧
        plainOverload ∈ (Plan.new "sample").check 0 0 plainCourse (some 0)) ∧
      (ofFindings unusualFindings).dedup = ofFindings (Finding.dedup unusualFindings) ∧
      plainOverload.severity = plainOverload.kind.severity := by
  have hseverity : ∀ f ∈ unusualFindings, ∀ g ∈ unusualFindings,
      f.kind = g.kind → f.severity = g.severity := by decide
  have hfound : plainOverload ∈ (Plan.new "sample").check 0 0 plainCourse (some 0) := by
    decide +kernel
  obtain ⟨-, -, -, -, hdedup, hcheck, -⟩ := dedup_split unusualFindings
  exact ⟨⟨hseverity, hfound⟩, hdedup hseverity, hcheck _ _ _ _ _ _ hfound⟩

/-- A repeat with another severity goes to the other list, and is not a repeat there. -/
example :
    (ofFindings [remark .level .info "first", remark .level .error "second"]).dedup ≠
      ofFindings (Finding.dedup [remark .level .info "first", remark .level .error "second"]) := by
  decide

end Report

end CoursePlan
