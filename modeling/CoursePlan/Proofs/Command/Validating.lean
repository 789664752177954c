import CoursePlan.Command.Run
import CoursePlan.Proofs.Batch
import CoursePlan.Proofs.Correspondence

/-!
# Validating several files

The reviews of the files of one command finish in any order, and still the reports come in the order
of the files, one for each of them (`Command.runValidate_in_any_order`).  A file that cannot be read
or does not hold a plan is an error of the whole command, which then reports on none of the files.
-/

namespace CoursePlan

/-- The file can be read, and what it says is loaded. -/
def Surroundings.Loads (s : Surroundings) (file : String) (loaded : LoadedPlan) : Prop :=
  ∃ text, s.fileText file = .ok text ∧ PlanFile.loadText 0 text = .ok loaded

namespace Command

variable {s : Surroundings} {threshold : Nat} {file : String} {files : List String}

/-- The review of a file gives a report exactly when the file loads: that on the plan that it loads
as. -/
theorem reviewFile_eq_ok_iff {r : FileReport} :
    reviewFile s threshold file = .ok r ↔
      ∃ loaded, s.Loads file loaded ∧ r = ⟨file, loaded.plan.name, loaded.plan.review threshold⟩ := by
  unfold reviewFile Surroundings.Loads
  cases s.fileText file with
  | error reason => simp
  | ok text =>
    cases hload : PlanFile.loadText 0 text with
    | error e => simp [hload]
    | ok loaded => simp [hload, eq_comm]

/-- A file that loads as some plan gets the report on that plan. -/
theorem reviewFile_of_loads {loaded : LoadedPlan} (h : s.Loads file loaded) :
    reviewFile s threshold file =
      .ok ⟨file, loaded.plan.name, loaded.plan.review threshold⟩ :=
  reviewFile_eq_ok_iff.2 ⟨loaded, h, rfl⟩

/-- Whether a file loads can be seen from its review, at any threshold. -/
theorem exists_loads_iff (threshold : Nat) :
    (∃ loaded, s.Loads file loaded) ↔ (reviewFile s threshold file).toOption.isSome = true := by
  constructor
  · rintro ⟨loaded, hloads⟩
    rw [reviewFile_of_loads hloads]
    rfl
  · intro hsome
    cases hreview : reviewFile s threshold file with
    | error chain =>
      rw [hreview] at hsome
      cases hsome
    | ok r =>
      obtain ⟨loaded, hloads, -⟩ := reviewFile_eq_ok_iff.1 hreview
      exact ⟨loaded, hloads⟩

instance (s : Surroundings) (file : String) : Decidable (∃ loaded, s.Loads file loaded) :=
  decidable_of_iff _ (exists_loads_iff 0).symm

/-- The review of a file that does not load is an error. -/
theorem exists_error_of_not_loads (h : ∀ loaded, ¬ s.Loads file loaded) (threshold : Nat) :
    ∃ chain, reviewFile s threshold file = .error chain := by
  cases hreview : reviewFile s threshold file with
  | error chain => exact ⟨chain, rfl⟩
  | ok r =>
    obtain ⟨loaded, hloads, -⟩ := reviewFile_eq_ok_iff.1 hreview
    exact absurd hloads (h loaded)

/-- The reviews of some files are those of the single files, numbered in order. -/
theorem reviews_eq_numbered (s : Surroundings) (threshold : Nat) (files : List String) :
    reviews s threshold files = Batch.numbered (files.map (reviewFile s threshold)) := by
  rw [reviews, Batch.numbered, List.zipIdx_map, List.map_map]
  rfl

/-- Where all files load, every one has its report. -/
theorem exists_reports (h : ∀ file ∈ files, ∃ loaded, s.Loads file loaded) (threshold : Nat) :
    ∃ reports, List.Forall₂ (fun file r => reviewFile s threshold file = .ok r) files reports := by
  induction files with
  | nil => exact ⟨[], .nil⟩
  | cons file files ih =>
    obtain ⟨loaded, hloads⟩ := h file List.mem_cons_self
    obtain ⟨reports, hreports⟩ := ih fun file hfile => h file (List.mem_cons_of_mem _ hfile)
    exact ⟨_, .cons (reviewFile_of_loads hloads) hreports⟩

/-- A report is valid if the plan is that it is about. -/
theorem all_isValid_iff {reports : List FileReport}
    (h : List.Forall₂ (fun file r => reviewFile s threshold file = .ok r) files reports) :
    reports.all (·.report.isValid) = true ↔
      ∀ file ∈ files, ∀ loaded, s.Loads file loaded →
        (loaded.plan.review threshold).isValid = true := by
  induction h with
  | nil => simp
  | @cons file r files reports hr _ ih =>
    have hhead : r.report.isValid = true ↔
        ∀ loaded, s.Loads file loaded → (loaded.plan.review threshold).isValid = true := by
      constructor
      · intro hvalid loaded hloads
        rw [reviewFile_of_loads hloads, Except.ok.injEq] at hr
        rwa [← hr] at hvalid
      · intro hvalid
        obtain ⟨loaded, hloads, rfl⟩ := reviewFile_eq_ok_iff.1 hr
        exact hvalid loaded hloads
    rw [List.all_cons, Bool.and_eq_true, hhead, ih, List.forall_mem_cons]

/-- **Files are validated side by side, in whatever order they finish.**  If all of them load, the
reports are those of the files, one by one and in their order, and the command finds all of them
valid just if every plan is; if some file does not load, the command fails with the error of such a
file and prints no report. -/
theorem runValidate_in_any_order (s : Surroundings) (threshold : Nat) (json : Bool)
    (files : List String) (finished : List (Nat × Except (List String) FileReport))
    (horder : finished.Perm (reviews s threshold files)) :
    ((∀ file ∈ files, ∃ loaded, s.Loads file loaded) →
      ∃ reports, Batch.gather files.length finished = .ok reports ∧
        List.Forall₂ (fun file r => ∃ loaded, s.Loads file loaded ∧
          r = ⟨file, loaded.plan.name, loaded.plan.review threshold⟩) files reports ∧
        ∃ valid, runValidate s json files.length finished =
            .ok (renderReports s json reports, valid) ∧
          (valid = true ↔ ∀ file ∈ files, ∀ loaded, s.Loads file loaded →
            (loaded.plan.review threshold).isValid = true)) ∧
    ((∃ file ∈ files, ∀ loaded, ¬ s.Loads file loaded) →
      ∃ file ∈ files, ∃ chain, reviewFile s threshold file = .error chain ∧
        runValidate s json files.length finished = .error chain ∧
        Answer.outcome s.settings (runValidate s json files.length finished) =
          ⟨1, "", Failure.text chain, s.settings.text⟩) := by
  rw [reviews_eq_numbered] at horder
  constructor
  · intro hall
    obtain ⟨reports, hreports⟩ := exists_reports hall threshold
    have hmap : files.map (reviewFile s threshold) = reports.map .ok :=
      map_eq_of_forall₂ (fun _ _ hreview => hreview) hreports
    rw [hmap] at horder
    have hgather : Batch.gather files.length finished = .ok reports := by
      rw [hreports.length_eq]
      exact Batch.gather_eq_ok horder
    refine ⟨reports, hgather, hreports.imp fun _ _ => reviewFile_eq_ok_iff.1,
      reports.all (·.report.isValid), ?_, all_isValid_iff hreports⟩
    rw [runValidate, hgather]
    rfl
  · rintro ⟨file, hfile, hfails⟩
    obtain ⟨chain, hchain⟩ := exists_error_of_not_loads hfails threshold
    have hmem := List.mem_map_of_mem (f := reviewFile s threshold) hfile
    rw [hchain] at hmem
    obtain ⟨first, hfirst, hgather⟩ := Batch.gather_eq_error horder ⟨chain, hmem⟩ files.length
    obtain ⟨failed, hfailed, hreview⟩ := List.mem_map.1 hfirst
    have hrun : runValidate s json files.length finished = .error first := by
      rw [runValidate, hgather]
      rfl
    exact ⟨failed, hfailed, first, hreview, hrun, by rw [hrun]; rfl⟩

/-- A directory with two plans, of which the second places a course twice. -/
def twoPlans : Surroundings where
  fileText file :=
    if file = "a.toml" then .ok "[plan]\nname = \"a\"\n"
    else if file = "b.toml" then
      .ok ("[plan]\nname = \"b\"\n[[courses]]\ncode = \"CS 101\"\n" ++
        "[[terms]]\nlabel = \"1A\"\ncourses = [\"CS 101\"]\n" ++
        "[[terms]]\nlabel = \"1B\"\ncourses = [\"CS 101\"]\n")
    else .error noSuchFile
  environment := none
  settings := ⟨"config.toml", none⟩
  time := "now"

/-- Three reviews that finish in reverse order, one file being listed twice. -/
theorem runValidate_in_any_order_reversed :
    let ok := (reviews twoPlans 6 ["a.toml", "b.toml", "a.toml"]).reverse
    let failing := (reviews twoPlans 6 ["a.toml", "c.toml"]).reverse
    ((ok.Perm (reviews twoPlans 6 ["a.toml", "b.toml", "a.toml"]) ∧
        ∀ file ∈ ["a.toml", "b.toml", "a.toml"], ∃ loaded, twoPlans.Loads file loaded) ∧
      failing.Perm (reviews twoPlans 6 ["a.toml", "c.toml"]) ∧
      ∃ file ∈ ["a.toml", "c.toml"], ∀ loaded, ¬ twoPlans.Loads file loaded) ∧
    (∃ reports, Batch.gather 3 ok = .ok reports ∧
      List.Forall₂ (fun file r => ∃ loaded, twoPlans.Loads file loaded ∧
        r = ⟨file, loaded.plan.name, loaded.plan.review 6⟩) ["a.toml", "b.toml", "a.toml"] reports ∧
      ∃ valid, runValidate twoPlans true 3 ok = .ok (renderReports twoPlans true reports, valid) ∧
        (valid = true ↔ ∀ file ∈ ["a.toml", "b.toml", "a.toml"], ∀ loaded,
          twoPlans.Loads file loaded → (loaded.plan.review 6).isValid = true)) ∧
    ∃ file ∈ ["a.toml", "c.toml"], ∃ chain, reviewFile twoPlans 6 file = .error chain ∧
      runValidate twoPlans true 2 failing = .error chain ∧
      Answer.outcome twoPlans.settings (runValidate twoPlans true 2 failing) =
        ⟨1, "", Failure.text chain, none⟩ := by
  intro ok failing
  have hloads : ∀ file ∈ ["a.toml", "b.toml", "a.toml"], ∃ loaded, twoPlans.Loads file loaded := by
    decide +kernel
  have hfails : ∃ file ∈ ["a.toml", "c.toml"], ∀ loaded, ¬ twoPlans.Loads file loaded := by
    refine ⟨"c.toml", by simp, ?_⟩
    rintro loaded ⟨text, htext, -⟩
    cases htext
  have hok : ok.Perm (reviews twoPlans 6 ["a.toml", "b.toml", "a.toml"]) := List.reverse_perm _
  have hfailing : failing.Perm (reviews twoPlans 6 ["a.toml", "c.toml"]) := List.reverse_perm _
  exact ⟨⟨⟨hok, hloads⟩, hfailing, hfails⟩,
    (runValidate_in_any_order twoPlans 6 true _ ok hok).1 hloads,
    (runValidate_in_any_order twoPlans 6 true _ failing hfailing).2 hfails⟩

end Command

end CoursePlan
