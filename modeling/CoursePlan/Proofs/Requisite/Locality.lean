import CoursePlan.Proofs.Requisite.Clauses
import CoursePlan.Proofs.Requisite.Demands

/-!
# Clauses are read by themselves

What a text requires is what its clauses require, one after the other.

* A text made of two texts with a separator in between requires what the first one does and then
  what the second one does; the numbers of the latter go up by the number of the former
  (`Requirements.ofChars_append_cons`), and the count never wraps around as long as there are fewer
  clauses than 32-bit numbers (`Requirements.toNat_group_shift`).
* The wording that a requirement keeps is all that it was read from: reading the wording alone gives
  the requirement again, now as the first of its text (`Requirements.ofChars_raw`).
-/

namespace CoursePlan

/-- The requirement as it is numbered behind `n` others. -/
def Requirement.shift (n : Nat) (r : Requirement) : Requirement :=
  { r with group := r.group + UInt32.ofNat n }

namespace Requirements

variable {cs : List Char} {x : Char} {r : Requirement}

/-! ## Two texts with a separator in between -/

/-- Blanks around a text do not change its requirements. -/
theorem ofChars_trim (cs : List Char) : ofChars (Text.trim cs) = ofChars cs := by
  rw [ofChars, demands, clauses_trim, ← demands, ← ofChars]

/-- Blanks behind a text do not change its requirements. -/
theorem ofChars_append_blanks {b : List Char} (hb : ∀ c ∈ b, Text.isBlank c = true)
    (cs : List Char) : ofChars (cs ++ b) = ofChars cs := by
  rw [ofChars, demands, clauses_append_right hb, ← demands, ← ofChars]

theorem items_parse_some (text : String) : (parse (some text)).items = ofChars text.toList := by
  rw [items_parse, Option.getD_some, ofChars_trim]

@[simp] theorem length_ofChars (cs : List Char) : (ofChars cs).length = (demands cs).length := by
  simp [ofChars]

/-- Clauses that demand nothing are left out, so that there are at most as many requirements as
clauses. -/
theorem length_demands_le (cs : List Char) : (demands cs).length ≤ (clauses cs).length :=
  List.length_filterMap_le _ _

/-- Where a clause ends, the demands of a text are those of its two parts. -/
theorem demands_append_cons (hx : endsClause x = true) (a b : List Char) :
    demands (a ++ x :: b) = demands a ++ demands b := by
  rw [demands, clauses_append_cons hx, List.filterMap_append]
  rfl

/-- **A separator keeps the requirements before it apart from those behind it**, which only have
their numbers raised. -/
theorem ofChars_append_cons (hx : endsClause x = true) (a b : List Char) :
    ofChars (a ++ x :: b) = ofChars a ++ (ofChars b).map (Requirement.shift (ofChars a).length) := by
  rw [ofChars, demands_append_cons hx, List.zipIdx_append, List.map_append, Nat.zero_add]
  congr 1
  -- What is left is about the second text, whose demands are counted on from the first.
  rw [List.zipIdx_eq_map_add, length_ofChars, ofChars, List.map_map, List.map_map]
  apply List.map_congr_left
  intro ⟨⟨clause, d⟩, i⟩ _
  simp [Requirement.shift, UInt32.ofNat_add, UInt32.add_comm]

/-- Requirements are numbered below their count. -/
theorem exists_group_of_mem_ofChars (h : r ∈ ofChars cs) :
    ∃ i < (ofChars cs).length, r.group = UInt32.ofNat i := by
  obtain ⟨⟨⟨clause, d⟩, i⟩, hmem, rfl⟩ := List.mem_map.1 h
  refine ⟨i, ?_, rfl⟩
  rw [length_ofChars]
  exact List.snd_lt_of_mem_zipIdx hmem

/-- Numbers are raised without wrapping around while all of them fit 32 bits. -/
theorem toNat_group_shift (h : r ∈ ofChars cs) {n : Nat}
    (hfits : n + (ofChars cs).length ≤ Numeral.max32) :
    (r.shift n).group.toNat = r.group.toNat + n := by
  obtain ⟨i, hi, hgroup⟩ := exists_group_of_mem_ofChars h
  have hmax : Numeral.max32 < UInt32.size := by decide
  have hi' : i < UInt32.size := by omega
  have hsum : i + n < UInt32.size := by omega
  show (r.group + UInt32.ofNat n).toNat = _
  rw [hgroup, ← UInt32.ofNat_add, UInt32.toNat_ofNat_of_lt' hsum, UInt32.toNat_ofNat_of_lt' hi']

/-! ## The wording of a requirement -/

/-- Every clause of a text looks like one. -/
theorem isClause_of_mem_clauses {clause : List Char} (h : clause ∈ clauses cs) :
    IsClause clause := by
  obtain ⟨hmem, hne⟩ := List.mem_filter.1 h
  obtain ⟨piece, hpiece, rfl⟩ := List.mem_map.1 hmem
  refine ⟨by simpa using hne, Text.trim_trim piece, ?_⟩
  intro c hc
  exact Text.isSeparator_of_mem_pieces endsClause hpiece c (Text.mem_of_mem_trim hc)

/-- A text that is one clause has one requirement, or none. -/
theorem ofChars_of_isClause {clause : List Char} (h : IsClause clause) :
    ofChars clause =
      (Clause.demand? clause).toList.map fun d => ⟨d, String.ofList clause, 0⟩ := by
  have hdemands : demands clause = (Clause.demand? clause).toList.map fun d => (clause, d) := by
    rw [demands, clauses_of_isClause h, List.filterMap_cons]
    cases Clause.demand? clause <;> rfl
  rw [ofChars, hdemands]
  cases Clause.demand? clause <;> rfl

/-- **A requirement is read again from its own wording**, as the only one of that text. -/
theorem ofChars_raw (h : r ∈ ofChars cs) : ofChars r.raw.toList = [{ r with group := 0 }] := by
  obtain ⟨⟨⟨clause, d⟩, i⟩, hmem, rfl⟩ := List.mem_map.1 h
  obtain ⟨hclause, hdemand⟩ := mem_demands.1 (List.fst_mem_of_mem_zipIdx hmem)
  show ofChars (String.ofList clause).toList = _
  rw [String.toList_ofList, ofChars_of_isClause (isClause_of_mem_clauses hclause), hdemand]
  rfl

/-! ## Reading is local to clauses -/

/-- **Reading a text looks at one clause at a time.**  A text that is put together at a separator
has the requirements of its two parts, those of the second part numbered behind those of the first;
and every requirement is read again from its wording alone. -/
theorem parse_clausewise :
    (∀ (a b : String) (s : Char), s = ';' ∨ s = '.' →
      (clauses a.toList).length + (clauses b.toList).length ≤ Numeral.max32 →
      (parse (some (a ++ s.toString ++ b))).items =
          (parse (some a)).items ++
            (parse (some b)).items.map (Requirement.shift (parse (some a)).items.length) ∧
        ∀ r ∈ (parse (some b)).items,
          (r.shift (parse (some a)).items.length).group.toNat =
            r.group.toNat + (parse (some a)).items.length) ∧
    ∀ (text : Option String), ∀ r ∈ (parse text).items,
      (parse (some r.raw)).items = [{ r with group := 0 }] := by
  constructor
  · intro a b s hs hcount
    have hends : endsClause s = true := by
      rcases hs with rfl | rfl <;> rfl
    have htext : (a ++ s.toString ++ b).toList = a.toList ++ s :: b.toList := by
      simp
    simp only [items_parse_some, htext]
    refine ⟨ofChars_append_cons hends a.toList b.toList, ?_⟩
    intro r hr
    apply toNat_group_shift hr
    have ha := length_demands_le a.toList
    have hb := length_demands_le b.toList
    rw [length_ofChars, length_ofChars]
    omega
  · intro text r hr
    rw [items_parse] at hr
    rw [items_parse_some]
    exact ofChars_raw hr

/-- A text with a clause that demands nothing and blanks at its end. -/
def frontSample : String := "Prereq: ECE 250. Open to all; "

/-- A text with blanks at its start and an empty clause. -/
def backSample : String := " Antireq: CS 241 ;; Level at least 3A Honours"

/-- The last requirement of the two texts taken together. -/
def levelSample : Requirement :=
  ⟨.level (.ofIndex 4) (some "Honours"), "Level at least 3A Honours", 2⟩

/-- Two texts with blanks at the seam and clauses that demand nothing. -/
theorem parse_clausewise_sample :
    (((clauses frontSample.toList).length + (clauses backSample.toList).length ≤ Numeral.max32) ∧
      levelSample ∈ (parse (some (frontSample ++ ';'.toString ++ backSample))).items) ∧
    ((parse (some (frontSample ++ ';'.toString ++ backSample))).items =
        (parse (some frontSample)).items ++
          (parse (some backSample)).items.map
            (Requirement.shift (parse (some frontSample)).items.length) ∧
      (parse (some levelSample.raw)).items = [{ levelSample with group := 0 }]) := by
  have hcount : (clauses frontSample.toList).length + (clauses backSample.toList).length ≤
      Numeral.max32 := by decide +kernel
  have hmem : levelSample ∈ (parse (some (frontSample ++ ';'.toString ++ backSample))).items := by
    decide +kernel
  exact ⟨⟨hcount, hmem⟩, (parse_clausewise.1 frontSample backSample ';' (.inl rfl) hcount).1,
    parse_clausewise.2 _ levelSample hmem⟩

end Requirements

end CoursePlan
