import CoursePlan.Proofs.CourseCode.Places

/-!
# Blanks around a text

What a text mentions is the same with blanks around it and without (`CourseCode.mentioned_trim`).
In front of the text any characters but those of words may stand.  Behind it a mention could be
longer: it ends with a number and takes along what belongs to the number, but no blank does.
-/

namespace CoursePlan

namespace CourseCode

open Text

/-! ## In front of a text -/

/-- A character in front that belongs to no word changes nothing. -/
theorem mentioned_cons {x : Char} (hx : isAsciiWordChar x = false) (cs : List Char) :
    mentioned (x :: cs) = mentioned cs := by
  rw [mentioned_eq, mentioned_eq, named_of_not_isAlpha (isAlpha_of_not_isAsciiWordChar hx), hx]

/-- A text in front that has no character of a word changes nothing. -/
theorem mentioned_append_left {front : List Char} (h : ∀ x ∈ front, isAsciiWordChar x = false)
    (cs : List Char) : mentioned (front ++ cs) = mentioned cs := by
  induction front with
  | nil => rfl
  | cons x front ih =>
    obtain ⟨hx, hfront⟩ := List.forall_mem_cons.1 h
    rw [List.cons_append, mentioned_cons hx, ih hfront]

/-- The blanks in front of a text do not matter for what it mentions. -/
theorem mentioned_trimStart (cs : List Char) : mentioned (trimStart cs) = mentioned cs := by
  have hfront : ∀ x ∈ cs.takeWhile isBlank, isAsciiWordChar x = false := by
    intro x hx
    exact isAsciiWordChar_of_isBlank ((List.all_eq_true.1 List.all_takeWhile) x hx)
  rw [trimStart, ← mentioned_append_left hfront, List.takeWhile_append_dropWhile]

theorem mentioned_nil : mentioned [] = [] := by
  rw [mentioned_eq]
  rfl

/-- One character alone makes no mention. -/
theorem mentioned_singleton (x : Char) : mentioned [x] = [] := by
  have hread : Mention.read? [x] = none := by
    cases hx : x.isAlpha <;> simp [Mention.read?, hx]
  rw [mentioned_eq, named_cons, first?, hread]
  rfl

/-! ## Behind a text -/

/-- What does not end in a blank lies in front of the blanks at the end of a text. -/
theorem exists_append_of_append_blanks {run rest cs back : List Char}
    (hrun : ∀ x ∈ run.getLast?, isBlank x = false) (hback : ∀ x ∈ back, isBlank x = true)
    (h : run ++ rest = cs ++ back) : ∃ mid, cs = run ++ mid ∧ rest = mid ++ back := by
  rcases List.append_eq_append_iff.1 h with ⟨mid, hcs, hrest⟩ | ⟨reach, hreach, hback'⟩
  · exact ⟨mid, hcs, hrest⟩
  · cases hlast : reach.getLast? with
    | none =>
      rw [List.getLast?_eq_none_iff] at hlast
      subst hlast
      rw [List.append_nil] at hreach
      exact ⟨[], by rw [hreach, List.append_nil], hback'.symm⟩
    | some x =>
      have hend : run.getLast? = some x := by
        rw [hreach, List.getLast?_append, hlast]
        rfl
      have hmem : x ∈ back := by
        rw [hback']
        exact List.mem_append_left rest (List.mem_of_getLast? hlast)
      have hx := hback x hmem
      rw [hrun x hend] at hx
      cases hx

theorem IsSpelledNumber.isBlank {number : List Char} (h : IsSpelledNumber number) :
    ∀ x ∈ number, isBlank x = false := by
  have halphanum : ∀ x ∈ number, isAsciiWordChar x = true := by
    cases h with
    | plain hx hy hz => simp [isAsciiWordChar_of_isDigit, hx, hy, hz]
    | lettered hx hy hz hl =>
      simp [isAsciiWordChar_of_isDigit, isAsciiWordChar_of_isAlpha, hx, hy, hz, hl]
  intro x hx
  rw [Bool.eq_false_iff]
  intro hblank
  have hword := halphanum x hx
  rw [isAsciiWordChar_of_isBlank hblank] at hword
  cases hword

section Behind

variable {back : List Char} (hback : ∀ x ∈ back, isBlank x = true)
include hback

theorem stops_append_blanks_iff {cs : List Char} :
    Stops isAsciiWordChar (cs ++ back) ↔ Stops isAsciiWordChar cs := by
  cases cs with
  | nil =>
    refine iff_of_true (stops_of_forall ?_) stops_nil
    intro x hx
    exact isAsciiWordChar_of_isBlank (hback x hx)
  | cons x cs => rw [List.cons_append, stops_cons, stops_cons]

theorem Mention.isAlternate_append_blanks_iff {alternate rest : List Char} :
    IsAlternate alternate (rest ++ back) ↔ IsAlternate alternate rest := by
  constructor
  · intro h
    cases h with
    | number hnumber hends => exact .number hnumber ((stops_append_blanks_iff hback).1 hends)
    | none h =>
      refine .none ?_
      rintro number rest' rfl hnumber hends
      refine h number (rest' ++ back) (by simp) hnumber ?_
      exact (stops_append_blanks_iff hback).2 hends
  · intro h
    cases h with
    | number hnumber hends => exact .number hnumber ((stops_append_blanks_iff hback).2 hends)
    | none h =>
      refine .none ?_
      intro number rest' hrest hnumber hends
      -- an alternate number would not reach into the blanks
      have hlast : ∀ x ∈ ('/' :: number).getLast?, isBlank x = false := by
        intro x hx
        rcases List.mem_cons.1 (List.mem_of_getLast? hx) with rfl | hx
        · decide
        · exact hnumber.isBlank x hx
      obtain ⟨mid, hmid, rfl⟩ := exists_append_of_append_blanks hlast hback hrest.symm
      exact h number mid hmid hnumber ((stops_append_blanks_iff hback).1 hends)

theorem Mention.hasParts_append_blanks_iff {subject gap number alternate rest : List Char} :
    HasParts subject gap number alternate (rest ++ back) ↔
      HasParts subject gap number alternate rest := by
  have hends : Stops isAsciiWordChar (alternate ++ (rest ++ back)) ↔
      Stops isAsciiWordChar (alternate ++ rest) := by
    rw [← List.append_assoc, stops_append_blanks_iff hback]
  have halternate : IsAlternate alternate (rest ++ back) ↔ IsAlternate alternate rest :=
    isAlternate_append_blanks_iff hback
  constructor
  · rintro ⟨hletters, hlength, hblanks, hspelled, hends', halternate'⟩
    exact ⟨hletters, hlength, hblanks, hspelled, hends.1 hends', halternate.1 halternate'⟩
  · rintro ⟨hletters, hlength, hblanks, hspelled, hends', halternate'⟩
    exact ⟨hletters, hlength, hblanks, hspelled, hends.2 hends', halternate.2 halternate'⟩

theorem head?_append_blanks_ne_hyphen {rest : List Char} :
    (rest ++ back).head? ≠ some '-' ↔ rest.head? ≠ some '-' := by
  cases rest with
  | nil =>
    refine iff_of_true ?_ (by simp)
    intro hhead
    exact absurd (hback '-' (List.mem_of_head? hhead)) (by decide)
  | cons x rest => rfl

/-- Blanks behind a text do not change the name that it starts with. -/
theorem startsWithName_append_blanks_iff {cs name : List Char} :
    StartsWithName (cs ++ back) name ↔ StartsWithName cs name := by
  constructor
  · rintro ⟨subject, gap, number, alternate, rest, hcs, hparts, hhyphen, hreserved, hname⟩
    -- the mention ends with its number or the alternate of it
    have htail : ∀ x ∈ number ++ alternate, isBlank x = false := by
      intro x hx
      rcases List.mem_append.1 hx with hx | hx
      · exact hparts.spelled.isBlank x hx
      · cases hparts.alternate with
        | number hnumber _ =>
          rcases List.mem_cons.1 hx with rfl | hx
          · decide
          · exact hnumber.isBlank x hx
        | none _ => cases hx
    have hlast : ∀ x ∈ (subject ++ (gap ++ (number ++ alternate))).getLast?,
        isBlank x = false := by
      have hne : number ++ alternate ≠ [] := by
        cases hparts.spelled <;> simp
      rw [List.getLast?_append_of_ne_nil _ (by simp [hne]), List.getLast?_append_of_ne_nil _ hne]
      intro x hx
      exact htail x (List.mem_of_getLast? hx)
    have hrun : subject ++ (gap ++ (number ++ alternate)) ++ rest = cs ++ back := by
      rw [hcs, Mention.spelling]
      simp only [List.append_assoc]
    obtain ⟨rest, rfl, rfl⟩ := exists_append_of_append_blanks hlast hback hrun
    refine ⟨subject, gap, number, alternate, rest, ?_, ?_, ?_, hreserved, hname⟩
    · simp only [Mention.spelling, List.append_assoc]
    · exact (Mention.hasParts_append_blanks_iff hback).1 hparts
    · exact (head?_append_blanks_ne_hyphen hback).1 hhyphen
  · rintro ⟨subject, gap, number, alternate, rest, rfl, hparts, hhyphen, hreserved, hname⟩
    refine ⟨subject, gap, number, alternate, rest ++ back, ?_, ?_, ?_, hreserved, hname⟩
    · simp only [Mention.spelling, List.append_assoc]
    · exact (Mention.hasParts_append_blanks_iff hback).2 hparts
    · exact (head?_append_blanks_ne_hyphen hback).2 hhyphen

theorem named_blanks (inWord : Bool) : named inWord back = [] := by
  induction back generalizing inWord with
  | nil => rfl
  | cons x back ih =>
    obtain ⟨hx, hback⟩ := List.forall_mem_cons.1 hback
    have halpha := isAlpha_of_not_isAsciiWordChar (isAsciiWordChar_of_isBlank hx)
    rw [named_of_not_isAlpha halpha, ih hback]

/-- Blanks behind a text do not change the codes that are named in it. -/
theorem named_append_blanks (inWord : Bool) (cs : List Char) :
    named inWord (cs ++ back) = named inWord cs := by
  induction cs generalizing inWord with
  | nil => exact named_blanks hback inWord
  | cons x cs ih =>
    have hfirst : first? (x :: cs ++ back) = first? (x :: cs) := by
      ext c
      rw [first?_eq_some_iff, first?_eq_some_iff, startsWithName_append_blanks_iff hback]
    rw [List.cons_append] at hfirst ⊢
    rw [named_cons, named_cons, hfirst, ih]

end Behind

/-- **Blanks around a text do not matter to what it mentions.** -/
theorem mentioned_trim (cs : List Char) : mentioned (trim cs) = mentioned cs := by
  obtain ⟨front, back, hfront, hback, hcs⟩ := exists_blanks_around cs
  have hfront' : ∀ x ∈ front, isAsciiWordChar x = false := by
    intro x hx
    exact isAsciiWordChar_of_isBlank (hfront x hx)
  have htrim : mentioned (front ++ trim cs ++ back) = mentioned (trim cs) := by
    rw [List.append_assoc, mentioned_append_left hfront', mentioned_eq, named_append_blanks hback,
      ← mentioned_eq]
  rw [← htrim, ← hcs]

end CourseCode

end CoursePlan
