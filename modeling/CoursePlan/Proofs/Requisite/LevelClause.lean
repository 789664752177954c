import CoursePlan.Proofs.Level
import CoursePlan.Proofs.Requisite.Keyword
import CoursePlan.Proofs.Requisite.Line
import Mathlib.Data.List.Infix

/-!
# Clauses that state a level

`Level at least 3A`, perhaps with the name of a program behind it, demands that level
(`Clause.demand?_level`).  The markers `Antireq` and `Coreq` come before the level phrase, so the
name must not contain them.
-/

namespace CoursePlan

open Text
open scoped Text.Memberwise

/-- The name of a program as it can stand behind a level: one line that contains neither `antireq`
nor `coreq` in any case. -/
def IsProgram (program : String) : Prop :=
  IsLine program.toList ∧ ∀ marker ∈ [Clause.antireqMarker, Clause.coreqMarker],
    ¬marker <:+: program.toList.map Char.toLower

instance (program : String) : Decidable (IsProgram program) :=
  inferInstanceAs (Decidable (_ ∧ _))

namespace Clause

/-- In the name of a program nothing is marked `Antireq` or `Coreq`. -/
theorem marked?_program {marker : List Char} (hmarker : marker ∈ [antireqMarker, coreqMarker])
    {program : String} (h : IsProgram program) : marked? marker program.toList = none := by
  cases hmarked : marked? marker program.toList with
  | none => rfl
  | some body =>
    exfalso
    obtain ⟨front, rest, hprogram, hread⟩ := exists_of_findAtWordStart hmarked
    obtain ⟨cs, hdrop, -⟩ := Option.bind_eq_some_iff.1 hread
    obtain ⟨w, rfl, hw⟩ := dropWord?_eq_some.1 hdrop
    -- The search folds cases as Unicode has it, which for these letters is lower case.
    have hletters : ∀ m ∈ [antireqMarker, coreqMarker], 's' ∉ m ∧ 'k' ∉ m := by decide
    obtain ⟨hs, hk⟩ := hletters marker hmarker
    have hlower : w.map Char.toLower = marker := by
      rw [← hw]
      apply List.map_congr_left
      intro x hx
      have hmem : foldCase x ∈ marker := hw ▸ List.mem_map_of_mem hx
      apply toLower_eq_foldCase
      · intro heq
        exact hs (heq ▸ hmem)
      · intro heq
        exact hk (heq ▸ hmem)
    apply h.2 marker hmarker
    refine ⟨front.map Char.toLower, cs.map Char.toLower, ?_⟩
    rw [hprogram, List.map_append, List.map_append, hlower, List.append_assoc]

/-! ## The parts of a level clause -/

/-- What follows the label in a level clause. -/
def programTail : Option String → List Char
  | none => []
  | some program => ' ' :: program.toList

/-- The words of a level clause. -/
def levelChars (year : Nat) (half : Half) (program : Option String) : List Char :=
  "Level at least ".toList ++ (Level.labelOf year half ++ programTail program)

variable {year : Nat} {half : Half} {program : Option String}

theorem startsInWord_programTail : startsInWord (programTail program) = false := by
  cases program with
  | none => rfl
  | some program =>
    show isWordChar ' ' = false
    decide

/-- A level clause is a line. -/
theorem isLine_levelChars (hprogram : ∀ p ∈ program, IsProgram p) :
    IsLine (levelChars year half program) := by
  have hspace : ∀ c ∈ [' '], breaksLine c = false := by decide
  have hwords : IsLine ['L', 'e', 'v', 'e', 'l', ' ', 'a', 't', ' ', 'l', 'e', 'a', 's', 't'] := by
    decide
  have hlabel : IsLine (Level.labelOf year half) :=
    .of_forall Level.isWord_labelOf.1 Level.mem_labelOf
  refine hwords.join hspace ?_
  cases program with
  | none =>
    rw [programTail, List.append_nil]
    exact hlabel
  | some p => exact hlabel.join hspace (hprogram p rfl).1

/-- Nothing in a level clause is marked `Antireq` or `Coreq`. -/
theorem marked?_level {marker : List Char} (hmarker : marker ∈ [antireqMarker, coreqMarker])
    (hprogram : ∀ p ∈ program, IsProgram p) :
    marked? marker (levelChars year half program) = none := by
  have hkeyword : IsKeyword marker (fun cs => (dropWord? marker cs).bind body?) := by
    apply isKeyword_marker
    rcases List.mem_pair.1 hmarker with rfl | rfl
    · decide
    · decide
  have hwords : ∀ m ∈ [antireqMarker, coreqMarker], dropWord? m ['L', 'e', 'v', 'e', 'l'] = none ∧
      dropWord? m ['a', 't'] = none ∧ dropWord? m ['l', 'e', 'a', 's', 't'] = none := by decide
  obtain ⟨hlevel, hat, hleast⟩ := hwords marker hmarker
  have hread : (dropWord? marker (Level.labelOf year half ++ programTail program)).bind body? =
      none := by
    obtain ⟨d, ds, hlabel, hd⟩ := Level.exists_labelOf year half
    rw [hlabel]
    exact hkeyword.read_cons (by rw [foldCase_of_isDigit hd, isAlpha_of_isDigit hd]) _
  show findAtWordStart _ false (['L', 'e', 'v', 'e', 'l'] ++ ([' '] ++ (['a', 't'] ++ ([' '] ++
    (['l', 'e', 'a', 's', 't'] ++ ([' '] ++ _)))))) = none
  rw [hkeyword.find_prose (by decide) (by decide) hlevel,
    hkeyword.find_prose (by decide) (by decide) hat,
    hkeyword.find_prose (by decide) (by decide) hleast,
    findAtWordStart_skip Level.isWord_labelOf hread]
  cases program with
  | none => rfl
  | some p =>
    rw [programTail, findAtWordStart_gap (by decide)]
    exact marked?_program hmarker (hprogram p rfl)

/-! ## The level phrase -/

/-- The words in front of the label are read by computation. -/
theorem levelPhrase?_words (cs : List Char) :
    levelPhrase? (['L', 'e', 'v', 'e', 'l', ' ', 'a', 't', ' ', 'l', 'e', 'a', 's', 't'] ++ cs) =
      (do
        let cs ← dropBlanks? cs
        let year := cs.takeWhile Char.isDigit
        match cs.dropWhile Char.isDigit with
        | [] => none
        | half :: rest =>
          if year.isEmpty || (Half.ofLetter? half).isNone || startsInWord rest then none
          else some (year ++ [half], firstLine (trimStart rest))) :=
  rfl

/-- A level clause is a level phrase. -/
theorem levelPhrase?_level : levelPhrase? (levelChars year half program) =
    some (Level.labelOf year half, firstLine (trimStart (programTail program))) := by
  have hletter : Stops Char.isDigit (half.letter :: programTail program) :=
    stops_cons.2 (isDigit_of_isUpper half.isUpper_letter)
  have hlabel : Level.labelOf year half ++ programTail program =
      Numeral.digits year ++ half.letter :: programTail program := by
    rw [Level.labelOf, List.append_assoc, List.singleton_append]
  have hblanks : dropBlanks? (' ' :: (Level.labelOf year half ++ programTail program)) =
      some (Level.labelOf year half ++ programTail program) := by
    rw [dropBlanks?, if_pos (by decide), trimStart, dropWhile_of_stops (Level.stops_labelOf _)]
  have htake := takeWhile_run (Numeral.isDigit_of_mem_digits (n := year)) hletter
  have hdrop := dropWhile_run (Numeral.isDigit_of_mem_digits (n := year)) hletter
  have hok : ((Numeral.digits year).isEmpty || (Half.ofLetter? half.letter).isNone ||
      startsInWord (programTail program)) = false := by
    rw [half.ofLetter?_letter, startsInWord_programTail,
      List.isEmpty_eq_false_iff.2 (Numeral.digits_ne_nil year)]
    rfl
  show levelPhrase? (['L', 'e', 'v', 'e', 'l', ' ', 'a', 't', ' ', 'l', 'e', 'a', 's', 't'] ++
    ' ' :: (Level.labelOf year half ++ programTail program)) = _
  rw [levelPhrase?_words, hblanks, hlabel]
  simp only [Option.bind_eq_bind, Option.bind_some, htake, hdrop, hok, Bool.false_eq_true, if_false]
  rfl

/-- What stands behind the label is the name of the program. -/
theorem firstLine_programTail (hprogram : ∀ p ∈ program, IsProgram p) :
    firstLine (trimStart (programTail program)) = program.elim [] String.toList := by
  cases program with
  | none => rfl
  | some p =>
    have hp : IsLine p.toList := (hprogram p rfl).1
    rw [programTail, trimStart_line hp, firstLine_eq_self hp.oneLine]
    rfl

/-- A label and a program are read as the demand of the level. -/
theorem levelDemand?_eq_some {label : List Char} {level : Level}
    (hlevel : Level.ofChars? label = some level) (hprogram : ∀ p ∈ program, IsProgram p) :
    levelDemand? label (program.elim [] String.toList) = some (.level level program) := by
  rw [levelDemand?, hlevel]
  cases program with
  | none => rfl
  | some p =>
    have hp : IsLine p.toList := (hprogram p rfl).1
    have htrim : trim p.toList = p.toList := hp.trimmed
    have hne : p.toList ≠ [] := hp.ne_nil
    simp [htrim, hne]

/-- **A level clause demands its level and program.** -/
theorem demand?_level (hyear : 1 ≤ year) (hfits : 2 * year + 1 ≤ Numeral.max32)
    (hprogram : ∀ p ∈ program, IsProgram p) :
    demand? (levelChars year half program) =
      some (.level (Level.ofIndex (2 * (year - 1) + half.offset)) program) := by
  have hoffset : 2 * year + half.offset ≤ Numeral.max32 := by
    have hhalf : half.offset ≤ 1 := by cases half <;> decide
    omega
  have hne : levelChars year half program ≠ [] :=
    List.append_ne_nil_of_left_ne_nil (List.cons_ne_nil _ _) _
  rw [demand?, marked?_level (by decide) hprogram, marked?_level (by decide) hprogram,
    findAtWordStart_of_read hne levelPhrase?_level, firstLine_programTail hprogram]
  exact levelDemand?_eq_some (Level.ofChars?_labelOf hyear hoffset) hprogram

end Clause

end CoursePlan
