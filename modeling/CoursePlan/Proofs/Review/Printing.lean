import CoursePlan.Proofs.Plan.Labels
import CoursePlan.Proofs.Requisite.Printing
import CoursePlan.Proofs.Review.Committing
import CoursePlan.Proofs.Review.Union

/-!
# Findings on two lines each

A finding is printed on two lines, one for its message and one for its details.  Both are put
together of fixed words, codes, numbers, labels and descriptions, none of which breaks a line as
long as the terms have their usual labels (`Plan.lineByLine_of_mem_check`).  The height of a printed
report is therefore known from the number of its findings (`Report.hasLines_render`), whatever the
requisite texts of the courses look like (`printed_line_by_line`).
-/

namespace CoursePlan

open Text

/-! ## Findings -/

/-- Message and details of the finding are one line each. -/
structure Finding.LineByLine (f : Finding) : Prop where
  message : OneLine f.message
  details : ∃ d, f.details = some d ∧ OneLine d

/-- A finding is printed line by line if its message and its details are. -/
theorem Finding.lineByLine_new {kind : FindingKind} {code : CourseCode} {message details : String}
    (hmessage : OneLine message) (hdetails : OneLine details) :
    (Finding.new kind code message details).LineByLine :=
  ⟨hmessage, details, rfl, hdetails⟩

theorem FindingKind.unbroken_name (kind : FindingKind) : Unbroken kind.name := by
  cases kind <;> decide

namespace Plan

variable {p : Plan} {threshold index : Nat} {c : Course} {f : Finding}

/-- A duplicate names the label of a term, which is one line where labels are those of indices. -/
theorem lineByLine_of_mem_duplicates (hp : p.Labelled) (h : f ∈ p.duplicates index c) :
    f.LineByLine := by
  obtain ⟨t, ht, rfl⟩ := mem_duplicates.1 h
  have hlabel : Unbroken t.label := by
    rw [hp t (List.mem_of_find?_eq_some ht)]
    exact (Level.oneLine_label _).unbroken
  apply Finding.lineByLine_new
  · exact (oneLine_ofList (by decide)).append hlabel
  · exact oneLine_ofList (by decide)

/-- Requirements are described in one line, and levels named by their labels. -/
theorem lineByLine_of_unmetFinding? {r : Requirement} (hr : r ∈ c.requirements)
    (h : unmetFinding? index c r = some f) : f.LineByLine := by
  have hdescription : Unbroken r.describe :=
    (Requirements.oneLine_describe (Course.mem_requirements.1 hr).2).unbroken
  unfold unmetFinding? at h
  split at h
  · cases h
    apply Finding.lineByLine_new
    · exact (oneLine_ofList (by decide)).append hdescription
    · exact oneLine_ofList (by decide)
  -- The details name two levels: the one that is asked for, and that of the term.
  · next l _ _ =>
    cases h
    apply Finding.lineByLine_new
    · exact (oneLine_ofList (by decide)).append hdescription
    · apply OneLine.append _ (by decide)
      apply OneLine.append _ (Level.oneLine_label _).unbroken
      apply OneLine.append _ (unbroken_ofList (by decide))
      exact (oneLine_ofList (by decide)).append l.oneLine_label.unbroken
  · cases h
    apply Finding.lineByLine_new
    · exact (oneLine_ofList (by decide)).append hdescription
    · exact oneLine_ofList (by decide)
  · cases h

/-- A conflict names a code, which is one line. -/
theorem lineByLine_conflictFinding (c : Course) (other : CourseCode) :
    (conflictFinding c other).LineByLine := by
  apply Finding.lineByLine_new
  · exact (oneLine_ofList (by decide)).append other.oneLine_text.unbroken
  · apply OneLine.append _ (unbroken_ofList (by decide))
    apply OneLine.append _ other.oneLine_text.unbroken
    exact c.code.oneLine_text.append (by decide)

/-- An overload names two numbers, which are on one line. -/
theorem lineByLine_of_mem_overloads {count : Nat} (h : f ∈ overloads threshold count c) :
    f.LineByLine := by
  obtain ⟨-, rfl⟩ := mem_overloads.1 h
  apply Finding.lineByLine_new
  · apply OneLine.append _ (by decide)
    exact (oneLine_ofList (by decide)).append (unbroken_numeral count)
  · apply OneLine.append _ (unbroken_ofList (by decide))
    exact (oneLine_ofList (by decide)).append (unbroken_numeral threshold)

/-- **Whatever the rules find is printed on two lines.** -/
theorem lineByLine_of_mem_check (hp : p.Labelled) {before : Option Nat}
    (h : f ∈ p.check threshold index c before) : f.LineByLine := by
  rcases mem_check.1 h with h | h | h | h
  · exact lineByLine_of_mem_duplicates hp h
  · obtain ⟨r, hr, -, hfind⟩ := mem_unmet.1 h
    exact lineByLine_of_unmetFinding? hr hfind
  · obtain ⟨-, -, other, -, -, -, rfl⟩ := mem_conflicts.1 h
    exact lineByLine_conflictFinding c other
  · obtain ⟨n, -, h⟩ := h
    exact lineByLine_of_mem_overloads h

end Plan

/-! ## Reports -/

namespace Report

/-- The height of the table of `n` findings: a title, a heading, a rule, two lines for each finding,
and a line that stays empty.  No table is printed of no findings. -/
def tableHeight (n : Nat) : Nat :=
  if n = 0 then 0 else 4 + 2 * n

theorem hasLines_row {course kind text : String} (hcourse : Unbroken course)
    (hkind : Unbroken kind) (htext : Unbroken text) : HasLines 1 (row course kind text) := by
  apply Unbroken.append_hasLines _ HasLines.lineFeed
  have hindent : Unbroken "  " := by decide
  have hspace : Unbroken " " := by decide
  simp only [unbroken_append, unbroken_padRight]
  exact ⟨⟨⟨⟨⟨hindent, hcourse⟩, hspace⟩, hkind⟩, hspace⟩, htext⟩

/-- A finding takes two lines, one for its message and one for its details. -/
theorem hasLines_findingRows {f : Finding} (h : f.LineByLine) : HasLines 2 (findingRows f) := by
  obtain ⟨d, hd, hdetails⟩ := h.details
  have hmessage : HasLines 1 (row f.code.text f.kind.name f.message) :=
    hasLines_row f.code.oneLine_text.unbroken f.kind.unbroken_name h.message.unbroken
  have hbelow : HasLines 1 (row "" "" d) := hasLines_row (by decide) (by decide) hdetails.unbroken
  rw [findingRows, hd]
  exact hmessage.append hbelow

/-- A table takes as many lines as its height says. -/
theorem hasLines_sectionText {title : String} {fs : List Finding} (htitle : Unbroken title)
    (h : ∀ f ∈ fs, f.LineByLine) : HasLines (tableHeight fs.length) (sectionText title fs) := by
  by_cases hempty : fs = []
  · subst hempty
    exact HasLines.empty
  have htop : HasLines 1 (title ++ " (" ++ Numeral.text fs.length ++ "):\n") := by
    apply Unbroken.append_hasLines _ ⟨rfl, by simp⟩
    exact unbroken_append.2 ⟨unbroken_append.2 ⟨htitle, by decide⟩, unbroken_numeral _⟩
  have hheading : HasLines 1 (row "COURSE" "KIND" "MESSAGE") :=
    hasLines_row (by decide) (by decide) (by decide)
  have hrule : HasLines 1 ("  " ++ rule 70 ++ "\n") :=
    (unbroken_append.2 ⟨by decide, unbroken_rule 70⟩).append_hasLines HasLines.lineFeed
  have hrows : HasLines (2 * fs.length) (String.join (fs.map findingRows)) :=
    HasLines.join fun f hf => hasLines_findingRows (h f hf)
  have htable := (((htop.append hheading).append hrule).append hrows).append HasLines.lineFeed
  have hheight : 1 + 1 + 1 + 2 * fs.length + 1 = tableHeight fs.length := by
    rw [tableHeight, if_neg (by simpa using hempty)]
    omega
  rw [hheight, ← String.append_assoc, ← String.append_assoc] at htable
  rwa [sectionText, if_neg (by simpa using hempty)]

/-- What is printed of a report: two tables, and the verdict on a line of its own. -/
theorem hasLines_render {r : Report} (h : ∀ f ∈ r.findings, f.LineByLine) :
    HasLines (tableHeight r.errors.length + tableHeight r.warnings.length + 1) r.render := by
  have herrors : HasLines _ (sectionText "Errors" r.errors) :=
    hasLines_sectionText (by decide) fun f hf => h f (List.mem_append_left _ hf)
  have hwarnings : HasLines _ (sectionText "Warnings" r.warnings) :=
    hasLines_sectionText (by decide) fun f hf => h f (List.mem_append_right _ hf)
  have hword : Unbroken (if r.isValid then "valid" else "INVALID") := by
    cases r.isValid <;> decide
  have hverdict : HasLines 1 ("Result: " ++ (if r.isValid then "valid" else "INVALID") ++ " (" ++
      Numeral.text r.errors.length ++ " errors, " ++ Numeral.text r.warnings.length ++
      " warnings)\n") := by
    apply Unbroken.append_hasLines _ ⟨rfl, by simp⟩
    simp only [unbroken_append, unbroken_numeral, and_true]
    exact ⟨⟨⟨by decide, hword⟩, by decide⟩, by decide⟩
  have hall := (herrors.append hwarnings).append hverdict
  simpa only [render, String.append_assoc] using hall

/-- The findings of the report are printed on two lines each, and the report on as many lines as its
tables are high, besides the verdict. -/
structure LineByLine (r : Report) : Prop where
  findings : ∀ f ∈ r.findings, f.LineByLine
  render : HasLines (tableHeight r.errors.length + tableHeight r.warnings.length + 1) r.render

theorem lineByLine_of_findings {r : Report} (h : ∀ f ∈ r.findings, f.LineByLine) : r.LineByLine :=
  ⟨h, hasLines_render h⟩

end Report

namespace Plan

variable {p : Plan}

/-- The review of a plan is printed line by line. -/
theorem lineByLine_review (hp : p.Labelled) (threshold : Nat) : (p.review threshold).LineByLine := by
  apply Report.lineByLine_of_findings
  intro f hf
  have hsweep : f ∈ p.sweep threshold := List.mem_of_find?_eq_some (mem_findings_review.1 hf)
  obtain ⟨t, -, q, rank, -, hcheck⟩ := mem_sweep.1 hsweep
  exact lineByLine_of_mem_check hp hcheck

theorem lineByLine_reviewAddition (hp : p.Labelled) (threshold index : Nat) (c : Course) :
    (p.reviewAddition threshold index c).LineByLine := by
  apply Report.lineByLine_of_findings
  intro f hf
  rw [reviewAddition_eq, Report.mem_findings_ofFindings] at hf
  exact lineByLine_of_mem_check hp hf

end Plan

/-- **What is printed keeps to its lines.**  Every requirement of every text has a description of
one line, and the table of the requirements has as many rows as there are requirements, below two
lines of heading.  Every finding on every plan that can come about has a message and details of one
line each, in the review of the plan and in that of every addition, and so the report has the height
that the number of its findings gives it. -/
theorem printed_line_by_line :
    (∀ text : Option String,
      (∀ r ∈ (Requirements.parse text).items, OneLine r.describe) ∧
        ((Requirements.parse text).items ≠ [] →
          HasLines (2 + (Requirements.parse text).items.length)
            (Requirements.parse text).render)) ∧
      ∀ p : Plan, p.Built → ∀ threshold,
        (p.review threshold).LineByLine ∧
          ∀ index c, (p.reviewAddition threshold index c).LineByLine := by
  constructor
  · intro text
    constructor
    · intro r hr
      exact Requirements.oneLine_describe hr
    · exact Requirements.hasLines_render
  · intro p hp threshold
    exact ⟨Plan.lineByLine_review hp.labelled threshold,
      Plan.lineByLine_reviewAddition hp.labelled threshold⟩

/-- A plan with `ECE 250` and `CS 241`, which must not be taken together. -/
def conflictingPlan : Plan :=
  Plan.excludingPlan.placing 1 Plan.excludedCourse

/-- What the review of that plan finds about `ECE 250`. -/
def conflictingFinding : Finding :=
  Plan.conflictFinding Plan.excludingCourse Plan.excludedCourse.code

/-- The plan is built from a new one. -/
theorem built_conflictingPlan : conflictingPlan.Built :=
  .placed (.placed (.new "sample") (Plan.place_eq_ok _ _ (by decide)))
    (Plan.place_eq_ok _ _ (by decide))

/-- The requirements of an untidy text, and the review of a plan with a conflict. -/
theorem printed_line_by_line_conflicting :
    ((Requirements.untidyLevel ∈ (Requirements.parse (some Requirements.untidySample)).items ∧
        (Requirements.parse (some Requirements.untidySample)).items ≠ []) ∧
      conflictingPlan.Built ∧ conflictingFinding ∈ (conflictingPlan.review 6).findings) ∧
    (OneLine Requirements.untidyLevel.describe ∧
        HasLines 4 (Requirements.parse (some Requirements.untidySample)).render) ∧
      conflictingFinding.LineByLine ∧ HasLines 7 (conflictingPlan.review 6).render := by
  have hmem : Requirements.untidyLevel ∈
      (Requirements.parse (some Requirements.untidySample)).items := by decide +kernel
  have hne := List.ne_nil_of_mem hmem
  have hrows : 2 + (Requirements.parse (some Requirements.untidySample)).items.length = 4 := by
    decide +kernel
  have hfound : conflictingFinding ∈ (conflictingPlan.review 6).findings := by decide +kernel
  have hheight : Report.tableHeight (conflictingPlan.review 6).errors.length +
      Report.tableHeight (conflictingPlan.review 6).warnings.length + 1 = 7 := by
    decide +kernel
  obtain ⟨hdescribe, htable⟩ := printed_line_by_line.1 (some Requirements.untidySample)
  have hreport := (printed_line_by_line.2 conflictingPlan built_conflictingPlan 6).1
  exact ⟨⟨⟨hmem, hne⟩, built_conflictingPlan, hfound⟩, ⟨hdescribe _ hmem, hrows ▸ htable hne⟩,
    hreport.findings _ hfound, hheight ▸ hreport.render⟩

end CoursePlan
