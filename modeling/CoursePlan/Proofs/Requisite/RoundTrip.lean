import CoursePlan.Proofs.CourseCode.Scan
import CoursePlan.Proofs.Level
import CoursePlan.Proofs.Requisite.Demands
import CoursePlan.Requisite.Json

/-!
# Requirements written and read back

A requirement that is written in JSON is read back as it was (`Requirement.ofJson_toJson`), as long
as the label of its level can be read.  That holds of all requirements that come from a text or from
JSON, since there levels are read from labels.  So writing is a normal form of what can be read.
-/

namespace CoursePlan

/-! ## Values written and read back -/

/-- What follows a step was given the result of the step. -/
theorem exists_ok_of_bind {ε α β : Type} {x : Except ε α} {next : α → Except ε β} {b : β}
    (h : (x >>= next) = .ok b) : ∃ a, x = .ok a ∧ next a = .ok b := by
  cases x with
  | error e => cases h
  | ok a => exact ⟨a, rfl, h⟩

namespace Decoder

variable {α : Type} {d : Decoder α} {write : α → Json}

theorem code_text (c : CourseCode) : code (.string c.text) = .ok c := by
  simp only [code, c.parse?_text]

/-- A level is read back from its label, if that can be read. -/
theorem level_label {l : Level} (h : l.Legible) : level (.string l.label) = .ok l := by
  rw [level, Level.parse_label h]
  rfl

theorem word32_natural (n : UInt32) : word32 (.natural n.toNat) = .ok n := by
  have hle : n.toNat ≤ Numeral.max32 := Nat.le_of_lt_succ n.toNat_lt
  have hnatural : natural Numeral.max32 (.integer n.toNat) = .ok n.toNat := by
    rw [natural, if_pos ⟨Int.natCast_nonneg _, Int.ofNat_le.2 hle⟩, Int.toNat_natCast]
  change (natural Numeral.max32 (.integer n.toNat)).map UInt32.ofNat = .ok n
  rw [hnatural, Except.map, UInt32.ofNat_toNat]

theorem looseWord_name (op : Operator) :
    looseWord Operator.ofName? (.string op.name) = .ok op := by
  cases op <;> rfl

/-- A list is read back if its members are. -/
theorem list_map {as : List α} (h : ∀ a ∈ as, d (write a) = .ok a) :
    list d (.array (as.map write)) = .ok as := by
  rw [list]
  induction as with
  | nil => rfl
  | cons a as ih =>
    obtain ⟨ha, has⟩ := List.forall_mem_cons.1 h
    rw [List.map_cons, List.mapM_cons, ha, ih has]
    rfl

/-- A word that may be missing is read back if words are. -/
theorem option_ofText? (word : α → String) (h : ∀ a, d (.string (word a)) = .ok a)
    (a? : Option α) : option d (.ofText? (a?.map word)) = .ok a? := by
  cases a? with
  | none => rfl
  | some a =>
    change (d (.string (word a))).map some = .ok (some a)
    rw [h, Except.map]

theorem list_codesJson (codes : List CourseCode) :
    list code (Requirement.codesJson codes) = .ok codes :=
  list_map (fun c _ => code_text c)

theorem option_operator (op : Option Operator) :
    option (looseWord Operator.ofName?) (.ofText? (op.map Operator.name)) = .ok op :=
  option_ofText? Operator.name looseWord_name op

theorem option_program (program : Option String) :
    option text (.ofText? program) = .ok program := by
  have h := option_ofText? (d := text) id (fun _ => rfl) program
  rwa [Option.map_id] at h

end Decoder

/-- Checks all of which pass pass together. -/
theorem forM_eq_ok {ε α : Type} {check : α → Except ε Unit} {l : List α}
    (h : ∀ a ∈ l, check a = .ok ()) : l.forM check = .ok () := by
  induction l with
  | nil => rfl
  | cons a l ih =>
    obtain ⟨ha, hl⟩ := List.forall_mem_cons.1 h
    change (check a >>= fun _ => l.forM check) = .ok ()
    rw [ha]
    exact ih hl

/-- A record passes if its fields pass one by one. -/
theorem JsonRecord.visit_eq_ok {r : JsonRecord} {check : String → Json → Except DecodeError Unit}
    (hcheck : ∀ m ∈ r.members, check m.1 m.2 = .ok ()) (hwell : r.wellFormed = true) :
    r.visit check = .ok () := by
  rw [visit, forM_eq_ok, if_pos hwell]
  · rfl
  · rintro ⟨name, j⟩ hm
    exact hcheck (name, j) hm

section Fields

variable {α : Type} {r : JsonRecord} {name : String} {d : Decoder α} {j : Json}

/-- A field that is there is read as it is. -/
theorem JsonRecord.required_eq (h : r.members.lookup name = some j) :
    r.required name d = d j := by
  rw [required, h]

theorem JsonRecord.optional_eq (h : r.members.lookup name = some j) :
    r.optional name d = d.option j := by
  rw [optional, h]

end Fields

/-! ## Demands with readable labels -/

/-- The label of the level that is demanded, if any, can be read. -/
def Demand.Legible : Demand → Prop
  | .level l _ => l.Legible
  | _ => True

namespace Clause

/-- The level that a clause demands was read from a label. -/
theorem legible_of_demand? {clause : List Char} {d : Demand} (h : demand? clause = some d) :
    d.Legible := by
  cases source_of_demand? h with
  | level hphrase hlabel => exact Level.legible_of_ofChars? hlabel
  | antireq | coreq | prereq | unmarked => trivial

end Clause

namespace Requirement

/-- The members of the object that writes a requirement. -/
def members (r : Requirement) : List (String × Json) :=
  ("kind", .string r.demand.kind) :: (demandMembers r.demand ++
    [("raw", .string r.raw), ("group_id", .natural r.group.toNat)])

variable {r : Requirement} {kind : String} {fields : JsonRecord} {d : Demand}

/-- A written requirement is read as a record of its kind with its members, each of them once. -/
theorem record_toJson (r : Requirement) : ∃ fields, record r.toJson = .ok (r.demand.kind, fields) ∧
    fields.members = r.members ∧ fields.wellFormed = true := by
  obtain ⟨demand, raw, group⟩ := r
  cases demand with
  | courses op codes => exact ⟨_, rfl, rfl, rfl⟩
  | level l program => exact ⟨_, rfl, rfl, rfl⟩
  | corequisite codes => exact ⟨_, rfl, rfl, rfl⟩
  | antirequisite codes => exact ⟨_, rfl, rfl, rfl⟩

/-- All members that are written pass their checks. -/
theorem checkField_members (h : r.demand.Legible) :
    ∀ m ∈ r.members, checkField r.demand.kind m.1 m.2 = .ok () := by
  have hpass : ∀ {α : Type} {x : Except DecodeError α} {a : α}, x = .ok a →
      discard x = .ok () := by
    rintro α x a rfl
    rfl
  obtain ⟨demand, raw, group⟩ := r
  have hgroup := hpass (Decoder.word32_natural group)
  cases demand with
  | courses op codes =>
    simp only [members, demandMembers, List.cons_append, List.nil_append, List.forall_mem_cons]
    exact ⟨rfl, hpass (Decoder.option_operator op), hpass (Decoder.list_codesJson codes), rfl,
      hgroup, by simp⟩
  | level l program =>
    simp only [members, demandMembers, List.cons_append, List.nil_append, List.forall_mem_cons]
    exact ⟨rfl, hpass (Decoder.level_label h), hpass (Decoder.option_program program), rfl,
      hgroup, by simp⟩
  | corequisite codes =>
    simp only [members, demandMembers, List.cons_append, List.nil_append, List.forall_mem_cons]
    exact ⟨rfl, hpass (Decoder.list_codesJson codes), rfl, hgroup, by simp⟩
  | antirequisite codes =>
    simp only [members, demandMembers, List.cons_append, List.nil_append, List.forall_mem_cons]
    exact ⟨rfl, hpass (Decoder.list_codesJson codes), rfl, hgroup, by simp⟩

/-- The demand is read back from the members that are written. -/
theorem demandOf_members (h : r.demand.Legible) (hfields : fields.members = r.members) :
    demandOf r.demand.kind fields = .ok r.demand := by
  have hlookup : ∀ {name : String} {j : Json}, r.members.lookup name = some j →
      fields.members.lookup name = some j := by
    intro name j hj
    rw [hfields, hj]
  obtain ⟨demand, raw, group⟩ := r
  cases demand with
  | courses op codes =>
    change demandOf "course" fields = _
    rw [demandOf, if_pos rfl, JsonRecord.optional_eq (hlookup rfl), Decoder.option_operator,
      JsonRecord.required_eq (hlookup rfl), Decoder.list_codesJson]
    rfl
  | level l program =>
    change demandOf "level" fields = _
    rw [demandOf, if_neg (by decide), if_pos rfl, JsonRecord.required_eq (hlookup rfl),
      Decoder.level_label h, JsonRecord.optional_eq (hlookup rfl), Decoder.option_program]
    rfl
  | corequisite codes =>
    change demandOf "corequisite" fields = _
    rw [demandOf, if_neg (by decide), if_neg (by decide), if_pos rfl,
      JsonRecord.required_eq (hlookup rfl), Decoder.list_codesJson]
    rfl
  | antirequisite codes =>
    change demandOf "antirequisite" fields = _
    rw [demandOf, if_neg (by decide), if_neg (by decide), if_neg (by decide),
      JsonRecord.required_eq (hlookup rfl), Decoder.list_codesJson]
    rfl

/-- **A requirement is read back as it was written.** -/
theorem ofJson_toJson (h : r.demand.Legible) : ofJson r.toJson = .ok r := by
  obtain ⟨fields, hrecord, hmembers, hwell⟩ := r.record_toJson
  have hvisit : fields.visit (checkField r.demand.kind) = .ok () := by
    apply JsonRecord.visit_eq_ok _ hwell
    rw [hmembers]
    exact checkField_members h
  have hraw : fields.members.lookup "raw" = some (.string r.raw) := by
    rw [hmembers]
    obtain ⟨demand, raw, group⟩ := r
    cases demand <;> rfl
  have hgroup : fields.members.lookup "group_id" = some (.natural r.group.toNat) := by
    rw [hmembers]
    obtain ⟨demand, raw, group⟩ := r
    cases demand <;> rfl
  rw [ofJson, hrecord]
  change (fields.visit _ >>= fun _ => demandOf r.demand.kind fields >>= fun d =>
    fields.required "raw" .text >>= fun raw => fields.required "group_id" Decoder.word32 >>=
      fun group => .ok ⟨d, raw, group⟩) = .ok r
  rw [hvisit, demandOf_members h hmembers, JsonRecord.required_eq hraw,
    JsonRecord.required_eq hgroup, Decoder.word32_natural]
  rfl

/-- The level that is read for a field was read from a label. -/
theorem legible_of_required {name : String} {l : Level}
    (h : fields.required name .level = .ok l) : l.Legible := by
  rw [JsonRecord.required] at h
  cases hlookup : fields.members.lookup name with
  | none =>
    rw [hlookup] at h
    cases h
  | some j =>
    rw [hlookup] at h
    cases j with
    | string s =>
      change (Level.parse s).mapError DecodeError.invalidLabel = .ok l at h
      cases hl : Level.parse s with
      | error e =>
        rw [hl] at h
        cases h
      | ok l' =>
        rw [hl] at h
        cases h
        exact Level.legible_of_ofChars? (Level.parse_eq_ok_iff.1 hl)
    | _ => cases h

/-- A demand that is read has a level that can be written and read again, if it has one. -/
theorem legible_of_demandOf (h : demandOf kind fields = .ok d) : d.Legible := by
  unfold demandOf at h
  split at h
  · obtain ⟨op, -, h⟩ := exists_ok_of_bind h
    obtain ⟨codes, -, h⟩ := exists_ok_of_bind h
    cases h
    trivial
  split at h
  · obtain ⟨l, hl, h⟩ := exists_ok_of_bind h
    obtain ⟨program, -, h⟩ := exists_ok_of_bind h
    cases h
    exact legible_of_required hl
  split at h
  · obtain ⟨codes, -, h⟩ := exists_ok_of_bind h
    cases h
    trivial
  · obtain ⟨codes, -, h⟩ := exists_ok_of_bind h
    cases h
    trivial

/-- The level of a requirement that is read from JSON was read from a label. -/
theorem legible_of_ofJson {j : Json} (h : ofJson j = .ok r) : r.demand.Legible := by
  obtain ⟨⟨kind, fields⟩, -, h⟩ := exists_ok_of_bind h
  obtain ⟨-, -, h⟩ := exists_ok_of_bind h
  obtain ⟨d, hd, h⟩ := exists_ok_of_bind h
  obtain ⟨raw, -, h⟩ := exists_ok_of_bind h
  obtain ⟨group, -, h⟩ := exists_ok_of_bind h
  cases h
  exact legible_of_demandOf hd

/-- The requirements that can be read back are those with a readable label. -/
theorem ofJson_toJson_iff : ofJson r.toJson = .ok r ↔ r.demand.Legible :=
  ⟨legible_of_ofJson, ofJson_toJson⟩

/-- **Writing is a normal form.**  Requirements that come from a text, and those that are read from
any JSON value, are read back as they were written. -/
theorem ofJson_toJson_normal :
    (∀ text, ∀ r ∈ (Requirements.parse text).items, ofJson r.toJson = .ok r) ∧
      ∀ j r, ofJson j = .ok r → ofJson r.toJson = .ok r := by
  constructor
  · intro text r hr
    obtain ⟨clause, -, hdemand, -⟩ := Requirements.mem_items hr
    exact ofJson_toJson_iff.2 (Clause.legible_of_demand? hdemand)
  · intro j r hj
    exact ofJson_toJson_iff.2 (legible_of_ofJson hj)

/-- A demand for a level in a program. -/
def thirdYear : Requirement :=
  ⟨.level (.ofIndex 4) (some "Computer Engineering"), "Level at least 3A Computer Engineering", 0⟩

/-- An object with its members in no usual order, one unknown member, one missing and a label that
is not in normal form. -/
def freelyWritten : Json :=
  .object [("raw", .string "Level at least 3A"), ("note", .null), ("level", .string " 03a "),
    ("kind", .string "level"), ("group_id", .integer 7)]

/-- The requirement that is written there. -/
def freelyWrittenLevel : Requirement :=
  ⟨.level (.ofIndex 4) none, "Level at least 3A", 7⟩

/-- A requirement that was read from a text, and one that is written freely. -/
theorem ofJson_toJson_normal_level :
    (thirdYear ∈ (Requirements.parse (some
        "Level at least 3A Computer Engineering; Prereq: One of ECE 250, CS 240.")).items ∧
      ofJson thirdYear.toJson = .ok thirdYear) ∧
    ofJson freelyWritten = .ok freelyWrittenLevel ∧
      ofJson freelyWrittenLevel.toJson = .ok freelyWrittenLevel := by
  have hmem : thirdYear ∈ (Requirements.parse (some
      "Level at least 3A Computer Engineering; Prereq: One of ECE 250, CS 240.")).items := by
    decide +kernel
  have hread : ofJson freelyWritten = .ok freelyWrittenLevel := rfl
  exact ⟨⟨hmem, ofJson_toJson_normal.1 _ thirdYear hmem⟩, hread,
    ofJson_toJson_normal.2 freelyWritten freelyWrittenLevel hread⟩

end Requirement

end CoursePlan
