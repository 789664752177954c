import CoursePlan.Proofs.CourseCode.Listed
import CoursePlan.Proofs.Text.Keywords
import CoursePlan.Requisite.Clause

/-!
# Keywords beside course codes

The markers and phrases of a clause are looked for at every word start, so they could also be found
at the start of a course code.  A code is *plain* if its subject is no word of prose and does not
start with a marker.  No keyword search ever stops at a plain code (`IsKeyword.overlooks`), and so
none succeeds in a list of plain codes (`IsKeyword.find_listed`).
-/

namespace CoursePlan

open Text
open scoped Text.Memberwise

namespace CourseCode

/-- The subject is no word of prose, and starts with none of the markers. -/
def IsPlain (c : CourseCode) : Prop :=
  isReserved c.subject = false ∧
    ∀ marker ∈ [Clause.antireqMarker, Clause.coreqMarker, Clause.prereqMarker],
      ¬capitals marker <+: c.subject

instance (c : CourseCode) : Decidable c.IsPlain :=
  inferInstanceAs (Decidable (_ ∧ _))

/-- A subject that a word is read from starts with the word in capital letters. -/
theorem subject_of_dropWord? {c : CourseCode} {word rest : List Char}
    (h : dropWord? word c.subject = some rest) : c.subject = capitals word ++ rest := by
  obtain ⟨front, hsubject, rfl⟩ := dropWord?_eq_some.1 h
  have hfront : ∀ x ∈ front, (foldCase x).toUpper = x := by
    intro x hx
    have hmem : x ∈ c.subject := by
      rw [hsubject]
      exact List.mem_append_left rest hx
    exact toUpper_foldCase_of_isUpper (c.isUpper_of_mem_subject x hmem)
  rw [hsubject, capitals, List.map_map, List.append_cancel_right_eq]
  exact ((List.map_congr_left hfront).trans (List.map_id' front)).symm

/-- A word in front of a code is read from the subject alone. -/
theorem dropWord?_chars {c : CourseCode} {word : List Char} (hspace : ' ' ∉ word)
    (cs : List Char) :
    dropWord? word (c.chars ++ cs) =
      (dropWord? word c.subject).map (· ++ ' ' :: (c.number ++ cs)) := by
  rw [chars, List.append_assoc, List.cons_append, dropWord?_append]
  intro x hx
  cases hx
  exact hspace

end CourseCode

namespace Clause

/-- A reader of texts that start with a word, which reads nothing where a plain code stands. -/
structure IsKeyword {α : Type} (word : List Char) (read : List Char → Option α) : Prop where
  ne_nil : word ≠ []
  isAlpha : ∀ x ∈ word, x.isAlpha = true
  begins : ∀ cs, dropWord? word cs = none → read cs = none
  overlooks : ∀ c : CourseCode, c.IsPlain → ∀ cs, read (c.chars ++ cs) = none

/-! ## Searching for a keyword -/

section Search

variable {α : Type} {word : List Char} {read : List Char → Option α}

/-- A keyword is not read where no letter stands. -/
theorem IsKeyword.read_cons (h : IsKeyword word read) {x : Char}
    (hx : (foldCase x).isAlpha = false) (cs : List Char) : read (x :: cs) = none := by
  apply h.begins
  cases word with
  | nil => exact absurd rfl h.ne_nil
  | cons k ks =>
    have hne : foldCase x ≠ k := by
      intro heq
      rw [heq, h.isAlpha k List.mem_cons_self] at hx
      cases hx
    rw [dropWord?, if_neg hne]

/-- The search goes through the gap behind a word. -/
theorem IsKeyword.find_gap (h : IsKeyword word read) {gap : List Char} (hgap : IsGap gap)
    (cs : List Char) :
    findAtWordStart read true (gap ++ cs) = findAtWordStart read false cs := by
  -- Past the first character of the gap a word could start at each of the others.
  have hfalse : ∀ rest : List Char, (∀ x ∈ rest, isWordChar x = false) →
      findAtWordStart read false (rest ++ cs) = findAtWordStart read false cs := by
    intro rest hrest
    induction rest with
    | nil => rfl
    | cons x rest ih =>
      obtain ⟨hx, hrest⟩ := List.forall_mem_cons.1 hrest
      have hread := h.read_cons (isAlpha_foldCase_of_not_isWordChar hx) (rest ++ cs)
      rw [List.cons_append, findAtWordStart_of_none hread, hx, ih hrest]
  obtain ⟨hne, hchars⟩ := hgap
  cases gap with
  | nil => exact absurd rfl hne
  | cons x gap =>
    obtain ⟨hx, hgap⟩ := List.forall_mem_cons.1 hchars
    rw [List.cons_append, findAtWordStart_gap hx, hfalse gap hgap]

/-- The search steps over another word and the gap behind it. -/
theorem IsKeyword.find_prose (h : IsKeyword word read) {w gap : List Char} (hw : IsWord w)
    (hgap : IsGap gap) (hother : dropWord? word w = none) (cs : List Char) :
    findAtWordStart read false (w ++ (gap ++ cs)) = findAtWordStart read false cs := by
  have hread : read (w ++ (gap ++ cs)) = none := by
    apply h.begins
    rw [dropWord?_append, hother, Option.map_none]
    -- the word is not read across the gap, whose characters are no letters
    intro x hx hmem
    obtain ⟨hne, hchars⟩ := hgap
    cases gap with
    | nil => exact hne rfl
    | cons y gap =>
      cases hx
      have hfold := isAlpha_foldCase_of_not_isWordChar (hchars x List.mem_cons_self)
      rw [h.isAlpha _ hmem] at hfold
      cases hfold
  rw [findAtWordStart_skip hw hread, h.find_gap hgap]

/-- The search goes through a plain code. -/
theorem IsKeyword.find_chars (h : IsKeyword word read) {c : CourseCode} (hc : c.IsPlain)
    (cs : List Char) :
    findAtWordStart read false (c.chars ++ cs) = findAtWordStart read true cs := by
  have hchars : c.chars ++ cs = c.subject ++ ([' '] ++ (c.number ++ cs)) := by
    rw [CourseCode.chars, List.append_assoc]
    rfl
  have hread : read (c.subject ++ ([' '] ++ (c.number ++ cs))) = none := by
    rw [← hchars]
    exact h.overlooks c hc cs
  rw [hchars, findAtWordStart_skip c.isWord_subject hread, h.find_gap (by decide)]
  -- behind the space, the number starts with a digit, and a keyword with a letter
  refine findAtWordStart_skip c.isWord_number ?_
  obtain ⟨x, y, z, tail, hnumber, hx, -⟩ := c.exists_number
  rw [hnumber]
  apply h.read_cons
  rw [foldCase_of_isDigit hx, isAlpha_of_isDigit hx]

/-- **A keyword search finds nothing in a list of plain codes** whose separator it gets over. -/
theorem IsKeyword.find_listed (h : IsKeyword word read) {separator : List Char}
    (hseparator : ∀ cs, findAtWordStart read true (separator ++ cs) = findAtWordStart read false cs)
    {codes : List CourseCode} (hcodes : ∀ c ∈ codes, c.IsPlain) :
    findAtWordStart read false (CourseCode.listed separator codes) = none := by
  induction codes with
  | nil => rfl
  | cons c codes ih =>
    obtain ⟨hc, hrest⟩ := List.forall_mem_cons.1 hcodes
    cases codes with
    | nil =>
      rw [CourseCode.listed_singleton, ← List.append_nil c.chars, h.find_chars hc]
      rfl
    | cons d codes =>
      rw [CourseCode.listed_cons_cons, h.find_chars hc, hseparator, ih hrest]

end Search

/-! ## The keywords of a clause -/

/-- A marker together with the body behind it is a keyword. -/
theorem isKeyword_marker {marker : List Char}
    (hmarker : marker ∈ [antireqMarker, coreqMarker, prereqMarker]) :
    IsKeyword marker (fun cs => (dropWord? marker cs).bind body?) := by
  have hletters : ∀ m ∈ [antireqMarker, coreqMarker, prereqMarker],
      m ≠ [] ∧ ' ' ∉ m ∧ ∀ x ∈ m, x.isAlpha = true := by decide
  obtain ⟨hne, hspace, halpha⟩ := hletters marker hmarker
  refine ⟨hne, halpha, ?_, ?_⟩
  · intro cs h
    rw [h]
    rfl
  · intro c hc cs
    rw [CourseCode.dropWord?_chars hspace]
    cases h : dropWord? marker c.subject with
    | none => rfl
    | some rest =>
      have hprefix : CourseCode.capitals marker <+: c.subject :=
        ⟨rest, (CourseCode.subject_of_dropWord? h).symm⟩
      exact absurd hprefix (hc.2 marker hmarker)

theorem isKeyword_antireq :
    IsKeyword antireqMarker (fun cs => (dropWord? antireqMarker cs).bind body?) :=
  isKeyword_marker (by decide)

theorem isKeyword_coreq :
    IsKeyword coreqMarker (fun cs => (dropWord? coreqMarker cs).bind body?) :=
  isKeyword_marker (by decide)

/-- A word of prose that has to end where it is read is a keyword: a plain code can start with the
word, but then its subject goes on. -/
theorem isKeyword_of_isReserved {α : Type} {word : List Char} {read : List Char → Option α}
    (hne : word ≠ []) (halpha : ∀ x ∈ word, x.isAlpha = true)
    (hreserved : CourseCode.isReserved (CourseCode.capitals word) = true)
    (hbegins : ∀ cs, dropWord? word cs = none → read cs = none)
    (hends : ∀ cs x rest, dropWord? word cs = some (x :: rest) → x.isUpper = true →
      read cs = none) : IsKeyword word read := by
  refine ⟨hne, halpha, hbegins, ?_⟩
  intro c hc cs
  have hspace : ' ' ∉ word := by
    intro hmem
    exact absurd (halpha ' ' hmem) (by decide)
  have hchars := CourseCode.dropWord?_chars (c := c) hspace cs
  cases h : dropWord? word c.subject with
  | none =>
    apply hbegins
    rw [hchars, h]
    rfl
  | some rest =>
    have hsubject := CourseCode.subject_of_dropWord? h
    cases rest with
    | nil =>
      -- the whole subject is the word, which is reserved
      rw [List.append_nil] at hsubject
      rw [← hsubject, hc.1] at hreserved
      cases hreserved
    | cons x rest =>
      have hx : x ∈ c.subject := by simp [hsubject]
      exact hends _ x _ (by rw [hchars, h]; rfl) (c.isUpper_of_mem_subject x hx)

/-- The level phrase is a keyword. -/
theorem isKeyword_level : IsKeyword ['l', 'e', 'v', 'e', 'l'] levelPhrase? := by
  refine isKeyword_of_isReserved (by decide) (by decide) (by decide +kernel) ?_ ?_
  · intro cs h
    rw [levelPhrase?, h]
    rfl
  · intro cs x rest h hx
    simp [levelPhrase?, h, dropBlanks?, isBlank_of_isUpper hx]

theorem isKeyword_oneOf : IsKeyword ['o', 'n', 'e']
    (fun cs => (dropOneOf? cs).filter (fun rest => !startsInWord rest)) := by
  refine isKeyword_of_isReserved (by decide) (by decide) (by decide +kernel) ?_ ?_
  · intro cs h
    rw [dropOneOf?, h]
    rfl
  · intro cs x rest h hx
    simp [dropOneOf?, h, dropBlanks?, isBlank_of_isUpper hx]

theorem isKeyword_or : IsKeyword ['o', 'r']
    (fun cs => (dropOr? cs).filter (fun rest => !startsInWord rest)) := by
  refine isKeyword_of_isReserved (by decide) (by decide) (by decide +kernel) ?_ ?_
  · intro cs h
    rw [dropOr?, h]
    rfl
  · intro cs x rest h hx
    simp [dropOr?, h, startsInWord, isWordChar_of_isUpper hx]

end Clause

end CoursePlan
