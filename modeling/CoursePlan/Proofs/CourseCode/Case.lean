import CoursePlan.Proofs.CourseCode.Places
import CoursePlan.Proofs.Text.Case

/-!
# Codes in any letter case

Codes are kept in capital letters, so the case in which a text spells them does not matter: a text
and the same text in small letters mention the same courses (`CourseCode.mentioned_lowered`), and
two spellings have the same capitals exactly when they are the same but for case
(`CourseCode.capitals_eq_iff`).
-/

namespace CoursePlan

namespace CourseCode

open Text

variable (cs : List Char)

/-! ## Capital letters -/

/-- Texts that differ in letter case only are the same in capitals. -/
theorem capitals_lowered : capitals (lowered cs) = capitals cs := by
  have hcomp : Char.toUpper ∘ Char.toLower = Char.toUpper := funext caseBlind_toUpper
  rw [capitals, lowered, List.map_map, hcomp, capitals]

/-- Capitals are forgotten in small letters. -/
theorem lowered_capitals : lowered (capitals cs) = lowered cs := by
  have hcomp : Char.toLower ∘ Char.toUpper = Char.toLower := funext toLower_toUpper
  rw [lowered, capitals, List.map_map, hcomp, lowered]

/-- Two texts are the same in capitals exactly when they differ in letter case only. -/
theorem capitals_eq_iff {cs ds : List Char} : capitals cs = capitals ds ↔ SameButCase cs ds := by
  constructor
  · intro h
    rw [SameButCase, ← lowered_capitals, h, lowered_capitals]
  · intro h
    rw [← capitals_lowered, show lowered cs = lowered ds from h, capitals_lowered]

/-! ## Numbers -/

theorem spanNumber?_lowered :
    spanNumber? (lowered cs) = (spanNumber? cs).map (Prod.map lowered lowered) := by
  rcases cs with _ | ⟨x, _ | ⟨y, _ | ⟨z, rest⟩⟩⟩
  · rfl
  · rfl
  · rfl
  · simp only [lowered_cons, spanNumber?, caseBlind_isDigit _]
    split
    · cases rest with
      | nil => rfl
      | cons l rest =>
        simp only [lowered_cons, caseBlind_isAlpha _]
        split <;> rfl
    · rfl

theorem dropAlternate?_lowered :
    dropAlternate? (lowered cs) = (dropAlternate? cs).map lowered := by
  by_cases hslash : cs.head? = some '/'
  · obtain ⟨rest, rfl⟩ := List.head?_eq_some_iff.1 hslash
    show (spanNumber? (lowered rest)).map Prod.snd = ((spanNumber? rest).map Prod.snd).map lowered
    rw [spanNumber?_lowered, Option.map_map, Option.map_map]
    rfl
  · have hlowered : (lowered cs).head? ≠ some '/' :=
      mt (head?_lowered_eq_iff cs (by decide)).1 hslash
    rw [dropAlternate?_eq_none hslash, dropAlternate?_eq_none hlowered]
    rfl

theorem goesOn_lowered : goesOn (lowered cs) = goesOn cs := by
  cases cs with
  | nil => rfl
  | cons c cs => exact caseBlind_isAsciiWordChar c

/-! ## Mentions -/

namespace Mention

/-- The mention as it is read from the text in small letters. -/
def lowered (m : Mention) : Mention :=
  ⟨Text.lowered m.subject, Text.lowered m.number, m.isRange⟩

theorem code?_lowered (m : Mention) : m.lowered.code? = m.code? := by
  simp only [code?, lowered, ofParts?, capitals_lowered]

theorem afterAlternate_lowered :
    afterAlternate (Text.lowered cs) = Text.lowered (afterAlternate cs) := by
  unfold afterAlternate
  rw [dropAlternate?_lowered]
  cases dropAlternate? cs with
  | none => rfl
  | some rest =>
    rw [Option.map_some]
    simp only [goesOn_lowered]
    split <;> rfl

theorem close_lowered (subject number : List Char) :
    close (Text.lowered subject) (Text.lowered number) (Text.lowered cs) =
      Prod.map lowered Text.lowered (close subject number cs) := by
  by_cases hhyphen : cs.head? = some '-'
  · obtain ⟨rest, rfl⟩ := List.head?_eq_some_iff.1 hhyphen
    rfl
  · have hlowered : (Text.lowered cs).head? ≠ some '-' :=
      mt (head?_lowered_eq_iff cs (by decide)).1 hhyphen
    rw [close_eq _ _ hhyphen, close_eq _ _ hlowered]
    rfl

/-- A mention is a subject, a number, and what closes it. -/
theorem read?_eq : read? cs =
    if (cs.takeWhile Char.isAlpha).length < 2 || 10 < (cs.takeWhile Char.isAlpha).length then none
    else (spanNumber? ((cs.dropWhile Char.isAlpha).dropWhile isAsciiBlank)).bind fun p =>
      if goesOn p.2 then none
      else some (close (cs.takeWhile Char.isAlpha) p.1 (afterAlternate p.2)) := by
  simp only [read?, some_close]
  split
  · rfl
  · cases spanNumber? ((cs.dropWhile Char.isAlpha).dropWhile isAsciiBlank) <;> rfl

/-- Letter case does not matter for where a mention is read, nor for what follows it. -/
theorem read?_lowered :
    read? (Text.lowered cs) = (read? cs).map (Prod.map lowered Text.lowered) := by
  rw [read?_eq, read?_eq, takeWhile_lowered _ caseBlind_isAlpha,
    dropWhile_lowered _ caseBlind_isAlpha, dropWhile_lowered _ caseBlind_isAsciiBlank,
    length_lowered, spanNumber?_lowered]
  split
  · rfl
  · cases spanNumber? ((cs.dropWhile Char.isAlpha).dropWhile isAsciiBlank) with
    | none => rfl
    | some p =>
      simp only [Option.map_some, Option.bind_some, Prod.map_fst, Prod.map_snd, goesOn_lowered,
        afterAlternate_lowered, close_lowered]
      split <;> rfl

end Mention

/-! ## Codes -/

theorem first?_lowered : first? (lowered cs) = first? cs := by
  rw [first?, first?, Mention.read?_lowered]
  cases Mention.read? cs with
  | none => rfl
  | some p => exact p.1.code?_lowered

/-- Letter case does not matter for the codes that are named in a text. -/
theorem named_lowered (inWord : Bool) : named inWord (lowered cs) = named inWord cs := by
  induction cs generalizing inWord with
  | nil => rfl
  | cons c cs ih =>
    have hfirst := first?_lowered (c :: cs)
    rw [lowered_cons] at hfirst ⊢
    rw [named_cons, named_cons, hfirst, caseBlind_isAsciiWordChar, ih]

/-- **A text mentions the same courses in every letter case.** -/
theorem mentioned_lowered : mentioned (lowered cs) = mentioned cs := by
  rw [mentioned_eq, mentioned_eq, named_lowered]

end CourseCode

end CoursePlan
