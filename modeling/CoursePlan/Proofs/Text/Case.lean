import CoursePlan.Proofs.Text.Letters
import CoursePlan.Text.Pieces

/-!
# Letter case

Two texts are the same but for the case of ASCII letters if they are the same in small letters
(`SameButCase`).  What is asked of single characters here tells no capital letter from its small one
(`CaseBlind`), so cutting and trimming a text can be done before or after writing it in small
letters.  A reader that is built from such questions reads in small letters what it reads from the
text as it stands: it is `Caseless`, and so is a search with it at all word starts
(`Caseless.findAtWordStart`).
-/

namespace CoursePlan.Text

/-- The text in small letters, as far as ASCII goes. -/
def lowered (cs : List Char) : List Char :=
  cs.map Char.toLower

/-- The texts are the same, except that ASCII letters may be capital in one and small in the
other. -/
def SameButCase (cs ds : List Char) : Prop :=
  lowered cs = lowered ds

instance (cs ds : List Char) : Decidable (SameButCase cs ds) :=
  inferInstanceAs (Decidable (_ = _))

/-! ## Characters -/

/-- What is asked of a character has the same answer for a capital letter and its small one. -/
def CaseBlind {α : Type} (ask : Char → α) : Prop :=
  ∀ c, ask c.toLower = ask c

/-- That a question does not tell capital letters is checked on the 26 pairs of letters. -/
theorem caseBlind_of_letters {α : Type} {ask : Char → α}
    (h : ∀ n < 26, ask (Char.ofNat (97 + n)) = ask (Char.ofNat (65 + n))) : CaseBlind ask := by
  intro c
  by_cases hc : c.isUpper = true
  · refine forall_isUpper (P := fun c => ask c.toLower = ask c) ?_ hc
    intro n hn
    have hsmall : ∀ n < 26, (Char.ofNat (65 + n)).toLower = Char.ofNat (97 + n) := by decide
    rw [hsmall n hn, h n hn]
  · rw [toLower_of_not_isUpper hc]

theorem caseBlind_isBlank : CaseBlind isBlank := caseBlind_of_letters (by decide)

theorem caseBlind_isAsciiBlank : CaseBlind isAsciiBlank := caseBlind_of_letters (by decide)

theorem caseBlind_isAlpha : CaseBlind Char.isAlpha := caseBlind_of_letters (by decide)

theorem caseBlind_isDigit : CaseBlind Char.isDigit := caseBlind_of_letters (by decide)

theorem caseBlind_isAsciiWordChar : CaseBlind isAsciiWordChar := caseBlind_of_letters (by decide)

theorem caseBlind_isWordChar : CaseBlind isWordChar := caseBlind_of_letters (by decide)

theorem caseBlind_foldCase : CaseBlind foldCase := caseBlind_of_letters (by decide)

theorem caseBlind_toUpper : CaseBlind Char.toUpper := caseBlind_of_letters (by decide)

/-- Only a character that is no letter is asked for by itself. -/
theorem toLower_eq_iff {c x : Char} (hx : x.isAlpha = false) : c.toLower = x ↔ c = x := by
  by_cases hc : c.isUpper = true
  · refine iff_of_false ?_ ?_
    · rintro rfl
      rw [caseBlind_isAlpha, isAlpha_of_isUpper hc] at hx
      cases hx
    · rintro rfl
      rw [isAlpha_of_isUpper hc] at hx
      cases hx
  · rw [toLower_of_not_isUpper hc]

theorem toUpper_of_not_isLower {c : Char} (hc : ¬c.isLower = true) : c.toUpper = c := by
  unfold Char.toUpper
  rw [dif_neg]
  unfold Char.isLower at hc
  simpa using hc

theorem toLower_toUpper (c : Char) : c.toUpper.toLower = c.toLower := by
  by_cases hc : c.isLower = true
  · have halpha : c.isAlpha = true := by
      unfold Char.isAlpha
      rw [hc, Bool.or_true]
    exact forall_isAlpha (P := fun c => c.toUpper.toLower = c.toLower) (by decide) (by decide)
      halpha
  · rw [toUpper_of_not_isLower hc]

/-! ## Texts -/

section Lowered

variable {p : Char → Bool} (cs : List Char)

@[simp] theorem lowered_nil : lowered [] = [] := rfl

@[simp] theorem lowered_cons (c : Char) : lowered (c :: cs) = c.toLower :: lowered cs := rfl

@[simp] theorem lowered_append (ds : List Char) :
    lowered (cs ++ ds) = lowered cs ++ lowered ds :=
  List.map_append

@[simp] theorem isEmpty_lowered : (lowered cs).isEmpty = cs.isEmpty :=
  List.isEmpty_map

@[simp] theorem length_lowered : (lowered cs).length = cs.length :=
  List.length_map _

/-- Letter case does not matter for how long a run of characters is. -/
theorem takeWhile_lowered (hp : CaseBlind p) :
    (lowered cs).takeWhile p = lowered (cs.takeWhile p) := by
  have hcomp : p ∘ Char.toLower = p := funext hp
  rw [lowered, List.takeWhile_map, hcomp, lowered]

/-- Letter case does not matter for what follows a run of characters. -/
theorem dropWhile_lowered (hp : CaseBlind p) :
    (lowered cs).dropWhile p = lowered (cs.dropWhile p) := by
  have hcomp : p ∘ Char.toLower = p := funext hp
  rw [lowered, List.dropWhile_map, hcomp, lowered]

theorem filter_lowered (hp : CaseBlind p) : (lowered cs).filter p = lowered (cs.filter p) := by
  have hcomp : p ∘ Char.toLower = p := funext hp
  rw [lowered, List.filter_map, hcomp, lowered]

theorem all_lowered (hp : CaseBlind p) : (lowered cs).all p = cs.all p := by
  have hcomp : p ∘ Char.toLower = p := funext hp
  rw [lowered, List.all_map, hcomp]

/-- A text begins with a character that is no letter in every case or in none. -/
theorem head?_lowered_eq_iff {x : Char} (hx : x.isAlpha = false) :
    (lowered cs).head? = some x ↔ cs.head? = some x := by
  cases cs with
  | nil => rfl
  | cons c cs =>
    rw [lowered_cons, List.head?_cons, List.head?_cons, Option.some.injEq, Option.some.injEq,
      toLower_eq_iff hx]

@[simp] theorem trimStart_lowered : trimStart (lowered cs) = lowered (trimStart cs) :=
  dropWhile_lowered cs caseBlind_isBlank

@[simp] theorem trim_lowered : trim (lowered cs) = lowered (trim cs) := by
  have hreverse : ∀ ds : List Char, (lowered ds).reverse = lowered ds.reverse :=
    fun ds => List.map_reverse.symm
  rw [trim, trimStart_lowered, trimEnd, hreverse, dropWhile_lowered _ caseBlind_isBlank, hreverse,
    trim, trimEnd]

@[simp] theorem startsInWord_lowered : startsInWord (lowered cs) = startsInWord cs := by
  cases cs with
  | nil => rfl
  | cons c cs => exact caseBlind_isWordChar c

/-- Letter case does not matter for where a text is separated. -/
theorem pieces_lowered (hp : CaseBlind p) : pieces p (lowered cs) = (pieces p cs).map lowered := by
  induction cs with
  | nil => rfl
  | cons c cs ih =>
    rw [lowered_cons, pieces, pieces, hp, ih]
    split
    · rfl
    · cases pieces p cs <;> rfl

end Lowered

/-! ## Readers -/

/-- The reader takes no notice of case: it reads from a text in small letters what it reads from the
text itself, in small letters. -/
def Caseless {α : Type} (lower : α → α) (read : List Char → Option α) : Prop :=
  ∀ cs, read (lowered cs) = (read cs).map lower

section Caseless

variable {α : Type} {lower : α → α} {read : List Char → Option α}

/-- One reader after the other. -/
theorem Caseless.bind {first : List Char → Option (List Char)} (hfirst : Caseless lowered first)
    (hread : Caseless lower read) : Caseless lower (fun cs => (first cs).bind read) := by
  intro cs
  show (first (lowered cs)).bind read = ((first cs).bind read).map lower
  rw [hfirst]
  cases first cs with
  | none => rfl
  | some rest => exact hread rest

/-- A word is read in any case. -/
theorem caseless_dropWord? (ws : List Char) : Caseless lowered (dropWord? ws) := by
  intro cs
  induction ws generalizing cs with
  | nil => rfl
  | cons w ws ih =>
    cases cs with
    | nil => rfl
    | cons c cs =>
      rw [lowered_cons, dropWord?, dropWord?, caseBlind_foldCase]
      split
      · exact ih cs
      · rfl

theorem caseless_dropBlanks? : Caseless lowered dropBlanks? := by
  intro cs
  cases cs with
  | nil => rfl
  | cons c cs =>
    rw [lowered_cons, dropBlanks?, dropBlanks?, caseBlind_isBlank, trimStart_lowered]
    split <;> rfl

/-- **A search takes no notice of case** if the reader that it tries does not. -/
theorem Caseless.findAtWordStart (h : Caseless lower read) (inWord : Bool) :
    Caseless lower (findAtWordStart read inWord) := by
  intro cs
  induction cs generalizing inWord with
  | nil => rfl
  | cons c cs ih =>
    have hread := h (c :: cs)
    rw [lowered_cons] at hread ⊢
    rw [Text.findAtWordStart, Text.findAtWordStart, hread, caseBlind_isWordChar, ih]
    cases inWord with
    | true => rfl
    | false => cases read (c :: cs) <;> rfl

end Caseless

end CoursePlan.Text
