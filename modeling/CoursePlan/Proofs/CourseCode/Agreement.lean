import CoursePlan.Proofs.CourseCode.Blanks
import CoursePlan.Proofs.CourseCode.Spelling

/-!
# Codes alone and codes in prose

A catalog gives each code alone, a requisite text mentions codes in prose, and the two are read in
different ways: the first from one end to the other, the second by a scan.  They mean the same
course by the same spelling (`CourseCode.mentioned_agrees`).  As a text, a spelling mentions the
code that it is read as and nothing else, or nothing at all if it begins with a word of prose; and a
code that is mentioned anywhere is the one that some part of the text spells.
-/

namespace CoursePlan

namespace CourseCode

open Text

/-- A subject is reserved if it is one of the words that start no code in prose. -/
theorem isReserved_iff {subject : List Char} :
    isReserved subject = true ↔ String.ofList subject ∈ reservedWords := by
  rw [isReserved, List.contains_iff_mem]

section Spelling

variable {cs front subject gap number alternate back : List Char} {c : CourseCode}

/-- What is named in a text that is one code: the code, unless it begins with a word of prose. -/
theorem named_of_isSpelling (h : IsSpelling front subject gap number alternate back) :
    named false (Mention.spelling subject gap number alternate back) =
      (if isReserved (capitals subject) then none else ofParts? subject number).toList := by
  have hback : ∀ x ∈ back, isBlank x = true := fun x hx => isBlank_of_isAsciiBlank (h.back x hx)
  have hhyphen : back.head? ≠ some '-' := head?_blanks_ne (by decide) h.back
  rw [named_spelling h.hasParts, named_blanks hback, List.append_nil,
    Mention.close_eq _ _ hhyphen, Mention.code?, Bool.false_or]

/-- A spelling mentions the code that it is read as. -/
theorem mentioned_of_spells (h : Spells cs subject number) :
    mentioned cs =
      (if isReserved (capitals subject) then none else ofParts? subject number).toList := by
  obtain ⟨front, gap, alternate, back, hspelling, rfl⟩ := h
  have hfront : ∀ x ∈ front, isAsciiWordChar x = false :=
    fun x hx => isAsciiWordChar_of_isAsciiBlank x (hspelling.front x hx)
  rw [mentioned_append_left hfront, mentioned_eq, named_of_isSpelling hspelling]
  cases if isReserved (capitals subject) then none else ofParts? subject number <;> rfl

/-- A text that is one spelling of a code mentions this code and no other, unless its subject is a
reserved word. -/
theorem mentioned_of_ofChars? (h : ofChars? cs = some c) :
    mentioned cs = if isReserved c.subject then [] else [c] := by
  obtain ⟨subject, number, hspells, hparts⟩ := spells_of_ofChars? h
  rw [mentioned_of_spells hspells, hparts, (ofParts?_eq_some_iff.1 hparts).1]
  split <;> rfl

/-- A mention is spelled by its letters, the blanks behind them and its first number. -/
theorem spells_of_hasParts {rest : List Char}
    (h : Mention.HasParts subject gap number alternate rest) :
    Spells (subject ++ (gap ++ number)) subject number := by
  refine ⟨[], gap, [], [], ?_, ?_⟩
  · exact
      { front := by simp
        letters := h.letters
        length := h.length
        gap := h.blanks
        spelled := h.spelled
        alternate := .inl rfl
        back := by simp }
  · simp [Mention.spelling]

/-- A code that a text mentions is spelled somewhere in it, and does not begin with a word of
prose. -/
theorem exists_part_of_mem_mentioned (h : c ∈ mentioned cs) :
    isReserved c.subject = false ∧ ∃ part, part <:+: cs ∧ ofChars? part = some c := by
  obtain ⟨i, -, subject, gap, number, alternate, rest, hcs, hparts, -, hreserved, hname⟩ :=
    mem_mentioned_iff.1 h
  obtain ⟨d, hread, hsubject, hnumber⟩ := (spells_of_hasParts hparts).exists_code
  have hcode : c = d := by
    apply chars_injective
    rw [hname, chars, hsubject, hnumber]
  subst hcode
  refine ⟨hsubject ▸ hreserved, _, ?_, hread⟩
  refine List.IsInfix.trans ?_ (List.drop_suffix i cs).isInfix
  rw [hcs]
  refine ⟨[], alternate ++ rest, ?_⟩
  simp [Mention.spelling]

end Spelling

/-- **The two ways of reading codes agree.**  A text that is one code mentions this code alone,
unless its subject is a word of prose, when it mentions nothing.  Whatever the text, the codes that
it mentions are all different, none has a word of prose for its subject, and each is the one code
that some part of the text is read as. -/
theorem mentioned_agrees :
    (∀ (text : String) (c : CourseCode), parse? text = some c →
      mentioned text.toList = if String.ofList c.subject ∈ reservedWords then [] else [c]) ∧
    ∀ text : String, (mentioned text.toList).Nodup ∧ ∀ c ∈ mentioned text.toList,
      String.ofList c.subject ∉ reservedWords ∧
        ∃ part : String, part.toList <:+: text.toList ∧ parse? part = some c := by
  constructor
  · intro text c h
    rw [mentioned_of_ofChars? h]
    simp only [isReserved_iff]
  · intro text
    refine ⟨nodup_firstOccurrences _, ?_⟩
    intro c hc
    obtain ⟨hreserved, part, hpart, hread⟩ := exists_part_of_mem_mentioned hc
    refine ⟨?_, String.ofList part, ?_, ?_⟩
    · rw [← isReserved_iff, hreserved]
      exact Bool.false_ne_true
    · rwa [String.toList_ofList]
    · rwa [parse?, String.toList_ofList]

/-- Prose with a range, a word of prose in front of a number, and a code that stands in it twice. -/
def proseSample : String := "Bme350a/360, any 300-level or 250; BME\t350A"

/-- The one code in it. -/
def proseSampleCode : CourseCode :=
  ⟨['B', 'M', 'E'], ['3', '5', '0', 'A'], by decide, by decide⟩

/-- `BME 350A` in a sentence, spelled with an alternate number and in mixed case. -/
theorem mentioned_agrees_prose :
    (parse? "Bme350a/360" = some proseSampleCode ∧
      proseSampleCode ∈ mentioned proseSample.toList) ∧
    (mentioned "Bme350a/360".toList =
        (if String.ofList proseSampleCode.subject ∈ reservedWords then [] else [proseSampleCode]) ∧
      String.ofList proseSampleCode.subject ∉ reservedWords ∧
        ∃ part : String, part.toList <:+: proseSample.toList ∧
          parse? part = some proseSampleCode) := by
  have hread : parse? "Bme350a/360" = some proseSampleCode := by decide +kernel
  have hmem : proseSampleCode ∈ mentioned proseSample.toList := by decide +kernel
  exact ⟨⟨hread, hmem⟩, mentioned_agrees.1 _ _ hread, (mentioned_agrees.2 proseSample).2 _ hmem⟩

end CourseCode

end CoursePlan
