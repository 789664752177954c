import CoursePlan.Proofs.Text.Keywords
import CoursePlan.Proofs.Text.Letters

/-!
# The characters of a course code

A code is capital letters, a space, three digits and at most one more capital letter.  Codes are
determined by these characters, and spelling them in capitals changes nothing.
-/

namespace CoursePlan

namespace CourseCode

open Text

/-- A code is determined by its subject and its number. -/
@[ext] theorem ext {c d : CourseCode} (hsubject : c.subject = d.subject)
    (hnumber : c.number = d.number) : c = d := by
  cases c
  cases d
  cases hsubject
  cases hnumber
  rfl

section Characters

variable (c : CourseCode)

/-- A subject has two to ten letters. -/
theorem length_subject : 2 ≤ c.subject.length ∧ c.subject.length ≤ 10 := by
  have h := c.subject_ok
  simp only [isSubject, Bool.and_eq_true, decide_eq_true_eq] at h
  exact h.1

theorem isUpper_of_mem_subject : ∀ x ∈ c.subject, x.isUpper = true := by
  have h := c.subject_ok
  rw [isSubject, Bool.and_eq_true] at h
  exact List.all_eq_true.1 h.2

/-- A subject starts with a letter. -/
theorem exists_subject : ∃ x xs, c.subject = x :: xs ∧ x.isUpper = true := by
  cases h : c.subject with
  | nil =>
    have hlen := c.length_subject
    rw [h] at hlen
    exact absurd hlen.1 (by decide)
  | cons x xs => exact ⟨x, xs, rfl, c.isUpper_of_mem_subject x (h ▸ List.mem_cons_self)⟩

/-- A catalog number is three digits and at most one letter. -/
theorem exists_number : ∃ x y z tail, c.number = x :: y :: z :: tail ∧
    x.isDigit = true ∧ y.isDigit = true ∧ z.isDigit = true ∧
    (tail = [] ∨ ∃ l, tail = [l] ∧ l.isUpper = true) := by
  have h := c.number_ok
  unfold isNumber at h
  split at h
  · next x y z hnumber =>
    simp only [Bool.and_eq_true] at h
    exact ⟨x, y, z, [], hnumber, h.1.1, h.1.2, h.2, .inl rfl⟩
  · next x y z l hnumber =>
    simp only [Bool.and_eq_true] at h
    exact ⟨x, y, z, [l], hnumber, h.1.1.1, h.1.1.2, h.1.2, .inr ⟨l, rfl, h.2⟩⟩
  · cases h

/-- A catalog number has digits and capital letters only. -/
theorem isDigit_or_isUpper_of_mem_number : ∀ x ∈ c.number, x.isDigit = true ∨ x.isUpper = true := by
  obtain ⟨x, y, z, tail, hnumber, hx, hy, hz, htail⟩ := c.exists_number
  rw [hnumber]
  rcases htail with rfl | ⟨l, rfl, hl⟩
  · simp [hx, hy, hz]
  · simp [hx, hy, hz, hl]

theorem isWord_subject : IsWord c.subject := by
  obtain ⟨x, xs, hsubject, -⟩ := c.exists_subject
  refine ⟨by simp [hsubject], ?_⟩
  intro x hx
  exact isWordChar_of_isUpper (c.isUpper_of_mem_subject x hx)

theorem isWord_number : IsWord c.number := by
  obtain ⟨x, y, z, tail, hnumber, -⟩ := c.exists_number
  refine ⟨by simp [hnumber], ?_⟩
  intro x hx
  rcases c.isDigit_or_isUpper_of_mem_number x hx with hx | hx
  · exact isWordChar_of_isDigit hx
  · exact isWordChar_of_isUpper hx

/-- A code has capital letters, digits and spaces only. -/
theorem mem_chars {x : Char} (hx : x ∈ c.chars) :
    x.isUpper = true ∨ x.isDigit = true ∨ x = ' ' := by
  rcases List.mem_append.1 hx with hx | hx
  · exact .inl (c.isUpper_of_mem_subject x hx)
  rcases List.mem_cons.1 hx with hx | hx
  · exact .inr (.inr hx)
  · rcases c.isDigit_or_isUpper_of_mem_number x hx with hx | hx
    · exact .inr (.inl hx)
    · exact .inl hx

@[simp] theorem capitals_subject : capitals c.subject = c.subject := by
  have h : ∀ x ∈ c.subject, x.toUpper = x := by
    intro x hx
    exact toUpper_of_isUpper (c.isUpper_of_mem_subject x hx)
  exact (List.map_congr_left h).trans (List.map_id' c.subject)

@[simp] theorem capitals_number : capitals c.number = c.number := by
  have h : ∀ x ∈ c.number, x.toUpper = x := by
    intro x hx
    rcases c.isDigit_or_isUpper_of_mem_number x hx with hx | hx
    · exact toUpper_of_isDigit hx
    · exact toUpper_of_isUpper hx
  exact (List.map_congr_left h).trans (List.map_id' c.number)

/-- Put together from its subject and its number, a code is what it was. -/
theorem ofParts?_self : ofParts? c.subject c.number = some c := by
  have hok : isSubject (capitals c.subject) = true ∧ isNumber (capitals c.number) = true := by
    simp [c.subject_ok, c.number_ok]
  rw [ofParts?, dif_pos hok]
  exact congrArg some (ext c.capitals_subject c.capitals_number)

end Characters

end CourseCode

end CoursePlan
