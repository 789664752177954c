import CoursePlan.Proofs.Correspondence
import CoursePlan.Proofs.CourseCode.Case
import CoursePlan.Proofs.Requisite.Locality

/-!
# Requisites in any letter case

Markers, phrases, codes and labels are all read in capital letters as well as in small ones.  To
write a text in small letters before it is read is therefore the same as to write in small letters
what a reading keeps of the wording: the clause itself and the name of a program
(`Requirements.ofChars_lowered`).  So texts that differ in case alone ask for the same
(`Requirements.parse_sameButCase`).

The lemmas follow the reading from its leaves, one for each step, and the steps of a search are put
together by `Text.Caseless`.
-/

namespace CoursePlan

open Text

/-! ## Labels -/

theorem Text.lowered_of_isDigit {ds : List Char} (h : ∀ d ∈ ds, d.isDigit = true) :
    lowered ds = ds := by
  have hdigit : ∀ d ∈ ds, d.toLower = d := by
    intro d hd
    exact forall_isDigit (P := fun d => d.toLower = d) (by decide) (h d hd)
  exact (List.map_congr_left hdigit).trans (List.map_id' ds)

theorem Numeral.nat?_lowered (ds : List Char) : nat? (lowered ds) = nat? ds := by
  rw [nat?, nat?, isEmpty_lowered, all_lowered _ caseBlind_isDigit]
  split
  · rfl
  · next h =>
    rw [Bool.or_eq_true, not_or, Bool.not_eq_true', Bool.not_eq_false, List.all_eq_true] at h
    rw [lowered_of_isDigit h.2]

/-- A half of a year is read from its letter in either case. -/
theorem Half.caseBlind_ofLetter? : CaseBlind Half.ofLetter? := caseBlind_of_letters (by decide)

/-- Letter case does not matter for the level of a label. -/
theorem Level.ofChars?_lowered (cs : List Char) : ofChars? (lowered cs) = ofChars? cs := by
  have hlast : (lowered (trim cs)).getLast? = (trim cs).getLast?.map Char.toLower :=
    List.getLast?_map
  have hinit : (lowered (trim cs)).dropLast = lowered (trim cs).dropLast :=
    List.map_dropLast.symm
  simp only [ofChars?, trim_lowered, hlast, hinit, Numeral.nat?_lowered]
  cases (trim cs).getLast? with
  | none => rfl
  | some c => simp only [Option.map_some, Option.bind_some, Half.caseBlind_ofLetter? c]

/-! ## Demands -/

/-- A text in small letters, as far as ASCII goes. -/
def loweredText (s : String) : String :=
  String.ofList (lowered s.toList)

theorem sameButCase_of_loweredText_eq {s t : String} (h : loweredText s = loweredText t) :
    SameButCase s.toList t.toList :=
  String.ofList_injective h

/-- A demand in small letters: all that a demand keeps of the wording is the name of a program. -/
def Demand.lowered : Demand → Demand
  | level l program => level l (program.map loweredText)
  | d => d

namespace Clause

/-! ### Bodies of markers -/

theorem dropColon_eq_self {cs : List Char} (h : cs.head? ≠ some ':') : dropColon cs = cs := by
  unfold dropColon
  split
  · exact absurd rfl h
  · rfl

theorem dropColon_lowered (cs : List Char) : dropColon (lowered cs) = lowered (dropColon cs) := by
  by_cases hcolon : cs.head? = some ':'
  · obtain ⟨rest, rfl⟩ := List.head?_eq_some_iff.1 hcolon
    rfl
  · have hlowered : (lowered cs).head? ≠ some ':' :=
      mt (head?_lowered_eq_iff cs (by decide)).1 hcolon
    rw [dropColon_eq_self hcolon, dropColon_eq_self hlowered]

theorem caseBlind_ne_newline : CaseBlind (fun c => decide (c ≠ '\n')) :=
  caseBlind_of_letters (by decide)

theorem firstLine_lowered (cs : List Char) : firstLine (lowered cs) = lowered (firstLine cs) :=
  takeWhile_lowered cs caseBlind_ne_newline

/-- The body behind a marker is found in any case. -/
theorem caseless_body? : Caseless lowered body? := by
  intro cs
  unfold body?
  rw [dropColon_lowered, trimStart_lowered]
  cases trimStart (dropColon cs) with
  | nil =>
    show ((lowered cs).filter _).getLast?.map _ = ((cs.filter _).getLast?.map _).map lowered
    rw [filter_lowered cs caseBlind_ne_newline, lowered, List.getLast?_map, Option.map_map,
      Option.map_map]
    rfl
  | cons c rest => exact congrArg some (firstLine_lowered (c :: rest))

theorem caseless_marked? (marker : List Char) : Caseless lowered (marked? marker) := by
  have hread : Caseless lowered (fun cs => (dropWord? marker cs).bind body?) :=
    (caseless_dropWord? marker).bind caseless_body?
  exact hread.findAtWordStart false

/-! ### Level phrases -/

/-- The label and the program behind the words `level at least`. -/
def labelAndProgram? (cs : List Char) : Option (List Char × List Char) :=
  match cs.dropWhile Char.isDigit with
  | [] => none
  | half :: rest =>
    if (cs.takeWhile Char.isDigit).isEmpty || (Half.ofLetter? half).isNone || startsInWord rest
    then none
    else some (cs.takeWhile Char.isDigit ++ [half], firstLine (trimStart rest))

theorem caseless_labelAndProgram? : Caseless (Prod.map lowered lowered) labelAndProgram? := by
  intro cs
  unfold labelAndProgram?
  rw [takeWhile_lowered _ caseBlind_isDigit, dropWhile_lowered _ caseBlind_isDigit]
  cases cs.dropWhile Char.isDigit with
  | nil => rfl
  | cons half rest =>
    simp only [lowered_cons, isEmpty_lowered, Half.caseBlind_ofLetter? half, startsInWord_lowered,
      trimStart_lowered, firstLine_lowered]
    split
    · rfl
    · simp only [Option.map_some, Prod.map_apply, lowered_append, lowered_cons, lowered_nil]

theorem caseless_levelPhrase? : Caseless (Prod.map lowered lowered) levelPhrase? := by
  have hlabel := caseless_dropBlanks?.bind caseless_labelAndProgram?
  have hleast := (caseless_dropWord? ['l', 'e', 'a', 's', 't']).bind hlabel
  have hat := (caseless_dropWord? ['a', 't']).bind (caseless_dropBlanks?.bind hleast)
  exact (caseless_dropWord? ['l', 'e', 'v', 'e', 'l']).bind (caseless_dropBlanks?.bind hat)

theorem levelDemand?_lowered (label program : List Char) :
    levelDemand? (lowered label) (lowered program) =
      (levelDemand? label program).map Demand.lowered := by
  unfold levelDemand?
  rw [Level.ofChars?_lowered, trim_lowered]
  cases Level.ofChars? label with
  | none => rfl
  | some l =>
    simp only [Option.bind_eq_bind, Option.bind_some, Option.map_some, Demand.lowered,
      isEmpty_lowered]
    split
    · rfl
    · rw [Option.map_some, loweredText, String.toList_ofList]

/-! ### Operators -/

/-- A phrase is found in any case. -/
theorem hasPhrase_lowered {drop? : List Char → Option (List Char)} (h : Caseless lowered drop?)
    (cs : List Char) : hasPhrase drop? (lowered cs) = hasPhrase drop? cs := by
  have hread : Caseless lowered
      (fun cs => (drop? cs).filter (fun rest => !startsInWord rest)) := by
    intro cs
    show (drop? (lowered cs)).filter _ = ((drop? cs).filter _).map lowered
    rw [h]
    cases drop? cs with
    | none => rfl
    | some rest =>
      simp only [Option.map_some, Option.filter_some, startsInWord_lowered]
      split <;> rfl
  rw [hasPhrase, hasPhrase, hread.findAtWordStart false, Option.isSome_map]

theorem contains_comma_lowered (cs : List Char) : (lowered cs).contains ',' = cs.contains ',' := by
  rw [Bool.eq_iff_iff, List.contains_iff_mem, List.contains_iff_mem, lowered, List.mem_map]
  simp only [toLower_eq_iff (x := ',') (by decide), exists_eq_right]

theorem operator?_lowered (body : List Char) (codes : List CourseCode) :
    operator? (lowered body) codes = operator? body codes := by
  have honeOf : Caseless lowered dropOneOf? :=
    (caseless_dropWord? ['o', 'n', 'e']).bind
      (caseless_dropBlanks?.bind (caseless_dropWord? ['o', 'f']))
  have hor : Caseless lowered dropOr? := caseless_dropWord? ['o', 'r']
  rw [operator?, operator?, offersChoice, offersChoice, hasPhrase_lowered honeOf,
    hasPhrase_lowered hor, contains_comma_lowered]

/-! ### Clauses -/

theorem courses?_lowered (cs : List Char) : courses? (lowered cs) = courses? cs := by
  rw [courses?, courses?, CourseCode.mentioned_lowered]

/-- A demand made of the courses of a text has nothing that could be in another case. -/
theorem courses?_map_lowered {make : List CourseCode → Demand}
    (hmake : ∀ codes, (make codes).lowered = make codes) (cs : List Char) :
    (courses? (lowered cs)).map make = ((courses? cs).map make).map Demand.lowered := by
  rw [courses?_lowered, Option.map_map]
  cases courses? cs with
  | none => rfl
  | some codes => exact congrArg some (hmake codes).symm

/-- **A clause demands the same in every letter case.** -/
theorem caseless_demand? : Caseless Demand.lowered demand? := by
  intro clause
  unfold demand?
  rw [caseless_marked? antireqMarker, caseless_marked? coreqMarker,
    caseless_levelPhrase?.findAtWordStart false, caseless_marked? prereqMarker]
  cases marked? antireqMarker clause with
  | some body => exact courses?_map_lowered (fun _ => rfl) body
  | none =>
  cases marked? coreqMarker clause with
  | some body => exact courses?_map_lowered (fun _ => rfl) body
  | none =>
  cases findAtWordStart levelPhrase? false clause with
  | some phrase => exact levelDemand?_lowered phrase.1 phrase.2
  | none =>
  cases marked? prereqMarker clause with
  | some body =>
    simp only [Option.map_none, Option.map_some, operator?_lowered]
    exact courses?_map_lowered (fun _ => rfl) body
  | none => exact courses?_map_lowered (fun _ => rfl) clause

end Clause

/-! ## Requirements -/

/-- A requirement in small letters. -/
def Requirement.lowered (r : Requirement) : Requirement :=
  ⟨r.demand.lowered, loweredText r.raw, r.group⟩

namespace Requirements

/-- Letter case does not matter for where clauses end. -/
theorem clauses_lowered (cs : List Char) : clauses (lowered cs) = (clauses cs).map lowered := by
  have hends : CaseBlind endsClause := caseBlind_of_letters (by decide)
  have htrim : trim ∘ lowered = lowered ∘ trim := funext trim_lowered
  have hempty : (fun clause => !clause.isEmpty) ∘ lowered = fun clause => !clause.isEmpty :=
    funext fun clause => congrArg (!·) (isEmpty_lowered clause)
  rw [clauses, clauses, pieces_lowered _ hends, List.map_map, htrim, ← List.map_map,
    List.filter_map, hempty]

/-- Demands change in the letters of programs only. -/
theorem demands_lowered (cs : List Char) :
    demands (lowered cs) = (demands cs).map (Prod.map lowered Demand.lowered) := by
  rw [demands, demands, clauses_lowered, List.filterMap_map, List.map_filterMap]
  congr 1
  funext clause
  show (Clause.demand? (lowered clause)).map _ = ((Clause.demand? clause).map _).map _
  rw [Clause.caseless_demand?, Option.map_map, Option.map_map]
  rfl

/-- **Reading a text in small letters is reading the text and putting the wording in small
letters.** -/
theorem ofChars_lowered (cs : List Char) :
    ofChars (lowered cs) = (ofChars cs).map Requirement.lowered := by
  rw [ofChars, demands_lowered, List.zipIdx_map, List.map_map, ofChars, List.map_map]
  apply List.map_congr_left
  rintro ⟨⟨clause, d⟩, i⟩ -
  simp [Requirement.lowered, loweredText]

end Requirements

/-! ## The same but for case -/

/-- The demands are the same, except that a program may be named in another case. -/
inductive Demand.SameButCase : Demand → Demand → Prop
  | courses (operator : Option Operator) (codes : List CourseCode) :
      SameButCase (.courses operator codes) (.courses operator codes)
  | level (l : Level) {program program' : Option String}
      (h : Option.Rel (fun p q => Text.SameButCase p.toList q.toList) program program') :
      SameButCase (.level l program) (.level l program')
  | corequisite (codes : List CourseCode) : SameButCase (.corequisite codes) (.corequisite codes)
  | antirequisite (codes : List CourseCode) :
      SameButCase (.antirequisite codes) (.antirequisite codes)

namespace Demand

variable {d e : Demand}

/-- Demands that are the same in small letters differ in letter case only. -/
theorem sameButCase_of_lowered_eq (h : d.lowered = e.lowered) : SameButCase d e := by
  cases d with
  | courses operator codes =>
    cases e with
    | courses => cases h; exact .courses operator codes
    | _ => cases h
  | level l program =>
    cases e with
    | level l' program' =>
      obtain ⟨rfl, hprogram⟩ := Demand.level.inj h
      refine .level l ?_
      cases program with
      | none =>
        cases program' with
        | none => exact .none
        | some _ => cases hprogram
      | some p =>
        cases program' with
        | none => cases hprogram
        | some q => exact .some (sameButCase_of_loweredText_eq (Option.some.inj hprogram))
    | _ => cases h
  | corequisite codes =>
    cases e with
    | corequisite => cases h; exact .corequisite codes
    | _ => cases h
  | antirequisite codes =>
    cases e with
    | antirequisite => cases h; exact .antirequisite codes
    | _ => cases h

/-- The name of a program does not matter to whether a demand is met. -/
theorem SameButCase.isSatisfied_eq (h : SameButCase d e) (completed : List CourseCode)
    (current : Option Level) : d.isSatisfied completed current = e.isSatisfied completed current := by
  cases h <;> rfl

end Demand

/-- The requirements are the same, except that their wordings may be in another case. -/
structure Requirement.SameButCase (r s : Requirement) : Prop where
  demand : r.demand.SameButCase s.demand
  raw : Text.SameButCase r.raw.toList s.raw.toList
  group : r.group = s.group

theorem Requirement.sameButCase_of_lowered_eq {r s : Requirement} (h : r.lowered = s.lowered) :
    r.SameButCase s := by
  obtain ⟨hdemand, hraw, hgroup⟩ := Requirement.mk.inj h
  exact
    { demand := Demand.sameButCase_of_lowered_eq hdemand
      raw := sameButCase_of_loweredText_eq hraw
      group := hgroup }

namespace Requirements

/-- Texts that differ in letter case only have requirements that differ in letter case only, one by
one. -/
theorem forall₂_ofChars_of_sameButCase {cs ds : List Char} (h : SameButCase cs ds) :
    List.Forall₂ Requirement.SameButCase (ofChars cs) (ofChars ds) := by
  have hlowered : (ofChars cs).map Requirement.lowered = (ofChars ds).map Requirement.lowered := by
    rw [← ofChars_lowered, ← ofChars_lowered, show lowered cs = lowered ds from h]
  exact (forall₂_of_map_eq hlowered).imp fun _ _ => Requirement.sameButCase_of_lowered_eq

/-- **Letter case never matters.**  Take two texts that differ at most in the case of ASCII
letters.  The one has requirements if the other has, and they agree one by one: each is of the same
kind as the other, with the same operator, courses, level and number, and the wording, with the name
of a program in it, differs at most in case.  Whoever meets a requirement of the one text meets that
of the other. -/
theorem parse_sameButCase {s t : String} (h : SameButCase s.toList t.toList) :
    (parse (some s)).hasRequirements = (parse (some t)).hasRequirements ∧
    SameButCase (parse (some s)).raw.toList (parse (some t)).raw.toList ∧
    List.Forall₂ Requirement.SameButCase (parse (some s)).items (parse (some t)).items ∧
    ∀ (completed : List CourseCode) (current : Option Level),
      (parse (some s)).items.map (Requirement.isSatisfied completed current) =
        (parse (some t)).items.map (Requirement.isSatisfied completed current) := by
  have hitems : List.Forall₂ Requirement.SameButCase
      (parse (some s)).items (parse (some t)).items := by
    rw [items_parse_some, items_parse_some]
    exact forall₂_ofChars_of_sameButCase h
  refine ⟨?_, ?_, hitems, ?_⟩
  · rw [Bool.eq_iff_iff]
    simp only [hasRequirements, Bool.not_eq_true', List.isEmpty_eq_false_iff,
      ← List.length_pos_iff, hitems.length_eq]
  · show SameButCase (String.ofList (trim s.toList)).toList (String.ofList (trim t.toList)).toList
    rw [String.toList_ofList, String.toList_ofList, SameButCase, ← trim_lowered, ← trim_lowered,
      show lowered s.toList = lowered t.toList from h]
  · intro completed current
    apply map_eq_of_forall₂ _ hitems
    intro r r' hr
    exact hr.demand.isSatisfied_eq completed current

/-- A text with one clause of each kind but the antirequisite. -/
def calmSample : String :=
  "Prereq: one of CS 240, Ece 105; Level at least 2b Honours math. coreq MATH 117"

/-- The same text, mostly in capital letters. -/
def shoutedSample : String :=
  "PREREQ: ONE OF cs 240, ECE 105; LEVEL AT LEAST 2B HONOURS MATH. COREQ math 117"

/-- A text with three clauses, and the same one mostly in capital letters. -/
theorem parse_sameButCase_shouted :
    (SameButCase calmSample.toList shoutedSample.toList ∧
      (parse (some calmSample)).items.length = 3) ∧
    List.Forall₂ Requirement.SameButCase
        (parse (some calmSample)).items (parse (some shoutedSample)).items ∧
      ∀ (completed : List CourseCode) (current : Option Level),
        (parse (some calmSample)).items.map (Requirement.isSatisfied completed current) =
          (parse (some shoutedSample)).items.map (Requirement.isSatisfied completed current) := by
  have hsame : SameButCase calmSample.toList shoutedSample.toList := by decide +kernel
  have hlength : (parse (some calmSample)).items.length = 3 := by decide +kernel
  obtain ⟨-, -, hitems, hsatisfied⟩ := parse_sameButCase hsame
  exact ⟨⟨hsame, hlength⟩, hitems, hsatisfied⟩

end Requirements

end CoursePlan
