import CoursePlan.PlanFile.Basic
import CoursePlan.Proofs.Plan.Uuid
import CoursePlan.Proofs.Toml.Table
import Mathlib.Logic.Relation

/-!
# Plan files written and read back

A plan file is read back from the table that says it (`PlanFile.ofTable?_toTable`), and it is the
same if all units are numbers.  Keys that mean nothing to a plan file may be added to the document,
to its heading, to entries and to terms: what is read stays the same
(`PlanFile.AddsKey.ofTable?_eq`).
-/

namespace CoursePlan

open Toml (Value Table)

/-! ## Units -/

/-- A format with more digits, a smaller unit and a larger bound holds more. -/
theorem Format.holds_mono {f g : Format} {d : Dyadic} (hprecision : f.precision ≤ g.precision)
    (hunit : g.leastExp ≤ f.leastExp) (hbound : f.bound ≤ g.bound) (h : f.holds d = true) :
    g.holds d = true := by
  simp only [holds, Bool.or_eq_true, Bool.and_eq_true, decide_eq_true_eq, beq_iff_eq] at h ⊢
  omega

namespace Binary

@[simp] theorem convert_convert (x : Single) : (x.convert .double).convert .single = x := by
  cases x with
  | nan => rfl
  | infinite s => rfl
  | finite s d held =>
    have hdouble : Format.double.holds d = true :=
      Format.holds_mono (by decide) (by decide) (by decide) held
    rw [convert, dif_pos hdouble, convert, dif_pos held]

/-- A number is the same as itself unless it is no number. -/
theorem sameValue_self {f : Format} (x : Binary f) : x.sameValue x = true ↔ x ≠ .nan := by
  cases x <;> simp [sameValue]

end Binary

/-! ## Writing and reading -/

namespace CatalogEntry

/-- The table of an entry has its fields, and nothing under the names of those that are missing. -/
theorem exists_fields (e : CatalogEntry) : ∃ fields, e.toValue = .table fields ∧
    fields.lookup "code" = some (.string e.code) ∧
    fields.lookup "id" = e.id.map (fun id => .string (Uuid.text id)) ∧
    fields.lookup "title" = e.title.map .string ∧
    fields.lookup "requisites" = e.requisites.map .string ∧
    fields.lookup "has_requirements" = e.hasRequirements.map .boolean ∧
    fields.lookup "units" = e.units.map (fun u => .float (u.convert .double)) := by
  refine ⟨_, rfl, ?_⟩
  simp [List.lookup_cons, List.lookup_append]

@[simp] theorem ofValue?_toValue (e : CatalogEntry) : ofValue? e.toValue = some e := by
  obtain ⟨fields, htable, hcode, hid, htitle, hrequisites, hflag, hunits⟩ := e.exists_fields
  have hsingle : ∀ u : Single, Value.single? (.float (u.convert .double)) = some u := by
    intro u
    rw [Value.single?, Binary.convert_convert]
  have hparse : ∀ id, id? (.string (Uuid.text id)) = some id := Uuid.parse?_text
  have hcode := Table.required?_eq_some hcode Value.string?_string
  have hid := Table.optional?_eq_some hid hparse
  have htitle := Table.optional?_eq_some htitle Value.string?_string
  have hrequisites := Table.optional?_eq_some hrequisites Value.string?_string
  have hflag := Table.optional?_eq_some hflag Value.boolean?_boolean
  have hunits := Table.optional?_eq_some hunits hsingle
  rw [ofValue?, htable]
  simp [Value.fields?, hcode, hid, htitle, hrequisites, hflag, hunits]

/-- An entry is the same as itself unless its units are no number. -/
theorem same_self_iff {e : CatalogEntry} : e.same e = true ↔ e.units ≠ some .nan := by
  cases hunits : e.units with
  | none => simp [same, hunits]
  | some u => simp [same, hunits, Binary.sameValue_self]

end CatalogEntry

@[simp] theorem TermSection.ofValue?_toValue (s : TermSection) : ofValue? s.toValue = some s := by
  have hcodes : Table.list? [("label", .string s.label), ("courses", .array (s.codes.map .string))]
      "courses" Value.string? = some s.codes :=
    Table.list?_eq_some (by simp [List.lookup_cons]) Value.string?_string
  simp [ofValue?, toValue, Value.fields?, Table.required?, hcodes]

namespace PlanFile

variable {f : PlanFile} {t u : Table}

/-- The heading of a plan is read back from its table. -/
theorem heading?_toTable (name : String) (program : Option String) :
    heading? (.table (("name", .string name) ::
      (program.map fun p => ("program", Value.string p)).toList)) = some (name, program) := by
  have hprogram : Table.optional? (("name", .string name) ::
      (program.map fun p => ("program", Value.string p)).toList) "program" Value.string? =
        some program :=
    Table.optional?_eq_some (by simp [List.lookup_cons]) Value.string?_string
  simp [heading?, Value.fields?, Table.required?, hprogram]

/-- **A plan file is read back from its table.** -/
theorem ofTable?_toTable (f : PlanFile) : ofTable? f.toTable = some f := by
  have hcatalog : f.toTable.list? "courses" CatalogEntry.ofValue? = some f.catalog :=
    Table.list?_eq_some (by simp [toTable, List.lookup_cons]) CatalogEntry.ofValue?_toValue
  have hsections : f.toTable.list? "terms" TermSection.ofValue? = some f.sections :=
    Table.list?_eq_some (by simp [toTable, List.lookup_cons]) TermSection.ofValue?_toValue
  have hplan : f.toTable.required? "plan" heading? = some (f.name, f.program) := by
    simp [Table.required?, toTable, heading?_toTable]
  simp [ofTable?, hplan, hcatalog, hsections]

/-- A catalog is the same as itself if all of its entries are. -/
theorem sameCatalog_self_iff {es : List CatalogEntry} :
    sameCatalog es es = true ↔ ∀ e ∈ es, e.units ≠ some .nan := by
  induction es with
  | nil => simp [sameCatalog]
  | cons e es ih => simp [sameCatalog, CatalogEntry.same_self_iff, ih]

/-- A plan file says the same as itself if all its units are numbers. -/
theorem same_self_iff : f.same f = true ↔ ∀ e ∈ f.catalog, e.units ≠ some .nan := by
  simp [same, sameCatalog_self_iff]

/-! ## Unknown keys -/

/-- The keys of a plan file. -/
def keys : List String := ["plan", "courses", "terms"]

/-- The second document is the first one with one more key, one that means nothing to a plan file
where it stands: in the document itself, in its heading, in an entry or in a term. -/
inductive AddsKey : Table → Table → Prop
  | document {t u : Table} (h : Table.Inserts keys t u) : AddsKey t u
  | heading {t u : Table} (h : Table.Inserts headingNames t u) (before after : Table) :
    AddsKey (before ++ ("plan", .table t) :: after) (before ++ ("plan", .table u) :: after)
  | entry {t u : Table} (h : Table.Inserts CatalogEntry.fieldNames t u) (before after : Table)
    (front back : List Value) :
    AddsKey (before ++ ("courses", .array (front ++ .table t :: back)) :: after)
      (before ++ ("courses", .array (front ++ .table u :: back)) :: after)
  | term {t u : Table} (h : Table.Inserts TermSection.fieldNames t u) (before after : Table)
    (front back : List Value) :
    AddsKey (before ++ ("terms", .array (front ++ .table t :: back)) :: after)
      (before ++ ("terms", .array (front ++ .table u :: back)) :: after)

/-- Keys that a heading does not have do not change it. -/
theorem heading?_of_inserts (h : Table.Inserts headingNames t u) :
    heading? (.table t) = heading? (.table u) := by
  have hname := h.required?_eq "name" (by decide) Value.string?
  have hprogram := h.optional?_eq "program" (by decide) Value.string?
  simp [heading?, Value.fields?, hname, hprogram]

theorem entry_of_inserts (h : Table.Inserts CatalogEntry.fieldNames t u) :
    CatalogEntry.ofValue? (.table t) = CatalogEntry.ofValue? (.table u) := by
  have hcode := h.required?_eq "code" (by decide) Value.string?
  have hid := h.optional?_eq "id" (by decide) CatalogEntry.id?
  have htitle := h.optional?_eq "title" (by decide) Value.string?
  have hrequisites := h.optional?_eq "requisites" (by decide) Value.string?
  have hflag := h.optional?_eq "has_requirements" (by decide) Value.boolean?
  have hunits := h.optional?_eq "units" (by decide) Value.single?
  simp [CatalogEntry.ofValue?, Value.fields?, hcode, hid, htitle, hrequisites, hflag, hunits]

theorem term_of_inserts (h : Table.Inserts TermSection.fieldNames t u) :
    TermSection.ofValue? (.table t) = TermSection.ofValue? (.table u) := by
  have hlabel := h.required?_eq "label" (by decide) Value.string?
  have hcodes := h.list?_eq "courses" (by decide) Value.string?
  simp [TermSection.ofValue?, Value.fields?, hlabel, hcodes]

/-- A file is read from its heading, its catalog and its terms, and from nothing else. -/
theorem ofTable?_congr
    (hplan : (t.lookup "plan").map heading? = (u.lookup "plan").map heading?)
    (hcourses : (t.lookup "courses").map (Value.listOf? CatalogEntry.ofValue?) =
      (u.lookup "courses").map (Value.listOf? CatalogEntry.ofValue?))
    (hterms : (t.lookup "terms").map (Value.listOf? TermSection.ofValue?) =
      (u.lookup "terms").map (Value.listOf? TermSection.ofValue?)) :
    ofTable? t = ofTable? u := by
  rw [ofTable?, ofTable?, Table.required?_congr hplan, Table.list?_congr hcourses,
    Table.list?_congr hterms]

/-- A key that is added at any of the four levels does not change what is read. -/
theorem AddsKey.ofTable?_eq (h : AddsKey t u) : ofTable? t = ofTable? u := by
  -- the key is added at one place, and the values under the other keys are not touched
  cases h with
  | document h =>
    apply ofTable?_congr
    · rw [h.lookup_eq (by decide)]
    · rw [h.lookup_eq (by decide)]
    · rw [h.lookup_eq (by decide)]
  | heading h before after =>
    apply ofTable?_congr
    · exact Table.map_lookup_replace before after fun _ => heading?_of_inserts h
    · exact Table.map_lookup_replace before after fun hkey => absurd hkey (by decide)
    · exact Table.map_lookup_replace before after fun hkey => absurd hkey (by decide)
  | entry h before after front back =>
    apply ofTable?_congr
    · exact Table.map_lookup_replace before after fun hkey => absurd hkey (by decide)
    · exact Table.map_lookup_replace before after fun _ =>
        Value.listOf?_replace front back (entry_of_inserts h)
    · exact Table.map_lookup_replace before after fun hkey => absurd hkey (by decide)
  | term h before after front back =>
    apply ofTable?_congr
    · exact Table.map_lookup_replace before after fun hkey => absurd hkey (by decide)
    · exact Table.map_lookup_replace before after fun hkey => absurd hkey (by decide)
    · exact Table.map_lookup_replace before after fun _ =>
        Value.listOf?_replace front back (term_of_inserts h)

/-- Any number of added keys does not change what is read. -/
theorem ofTable?_of_addsKeys (h : Relation.ReflTransGen AddsKey t u) :
    ofTable? t = ofTable? u := by
  induction h with
  | refl => rfl
  | tail _ hstep ih => exact ih.trans hstep.ofTable?_eq

/-- **A plan file whose units are numbers survives writing**, also if the document gets more keys
than a plan file has. -/
theorem read_written (f : PlanFile) (hunits : ∀ e ∈ f.catalog, e.units ≠ some .nan) :
    (ofTable? f.toTable = some f ∧ f.survivesWriting = true) ∧
    ∀ t, Relation.ReflTransGen AddsKey f.toTable t →
      ofTable? t = some f ∧ (ofTable? t).any f.same = true := by
  have hsame : f.same f = true := same_self_iff.2 hunits
  refine ⟨⟨ofTable?_toTable f, by simp [survivesWriting, ofTable?_toTable, hsame]⟩, ?_⟩
  intro t h
  have hread : ofTable? t = some f := by
    rw [← ofTable?_of_addsKeys h, ofTable?_toTable]
  exact ⟨hread, by simp [hread, hsame]⟩

def sampleEntry : CatalogEntry :=
  ⟨"ECE 250", some 7, some "Algorithms", some "Prereq: ECE 105", none, none⟩

def half : Single :=
  .finite false ⟨1, -1, .inl rfl⟩ (by decide)

/-- A plan file with units, an id and a term without courses. -/
def sampleFile : PlanFile where
  name := "CE 2026"
  program := none
  catalog := [⟨"ECE 105", none, none, none, some false, some half⟩, sampleEntry]
  sections := [⟨"1A", ["ECE 105"]⟩, ⟨"2A", []⟩]

/-- The document of `sampleFile` with more fields on each level. -/
def annotated (document heading entry term : Table) : Table :=
  document ++
    [("plan", .table (("name", .string "CE 2026") :: heading)),
      ("courses", .array
        [.table (("code", .string "ECE 105") :: (entry ++ [("has_requirements", .boolean false),
          ("units", .float (half.convert .double))])), sampleEntry.toValue]),
      ("terms", .array
        [TermSection.toValue ⟨"1A", ["ECE 105"]⟩,
          .table (("label", .string "2A") :: ("courses", .array []) :: term)])]

/-- A file with one more key at each of the four levels. -/
theorem read_written_annotated :
    let version : Table := [("version", .integer 2)]
    let author : Table := [("author", .boolean true)]
    let room : Table := [("room", .string "E7")]
    let year : Table := [("year", .integer 2027)]
    ((∀ e ∈ sampleFile.catalog, e.units ≠ some .nan) ∧
      Relation.ReflTransGen AddsKey sampleFile.toTable (annotated version author room year)) ∧
    (ofTable? sampleFile.toTable = some sampleFile ∧ sampleFile.survivesWriting = true) ∧
    ofTable? (annotated version author room year) = some sampleFile ∧
      (ofTable? (annotated version author room year)).any sampleFile.same = true := by
  intro version author room year
  have hunits : ∀ e ∈ sampleFile.catalog, e.units ≠ some .nan := by
    simp [sampleFile, sampleEntry, half]
  have hdocument : AddsKey sampleFile.toTable (annotated version [] [] []) :=
    .document ⟨[], _, "version", _, by decide, rfl, rfl⟩
  have hheading : AddsKey (annotated version [] [] []) (annotated version author [] []) :=
    .heading ⟨[("name", _)], [], "author", _, by decide, rfl, rfl⟩ version _
  have hentry : AddsKey (annotated version author [] []) (annotated version author room []) :=
    .entry ⟨[("code", _)], _, "room", _, by decide, rfl, rfl⟩ (version ++ [("plan", _)]) _ [] _
  have hterm : AddsKey (annotated version author room []) (annotated version author room year) :=
    .term ⟨[("label", _), ("courses", _)], [], "year", _, by decide, rfl, rfl⟩
      (version ++ [("plan", _), ("courses", _)]) _ [_] []
  have hadds := (((Relation.ReflTransGen.single hdocument).tail hheading).tail hentry).tail hterm
  exact ⟨⟨hunits, hadds⟩, (read_written sampleFile hunits).1,
    (read_written sampleFile hunits).2 _ hadds⟩

end PlanFile

end CoursePlan
