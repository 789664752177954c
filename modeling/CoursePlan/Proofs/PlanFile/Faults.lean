import CoursePlan.PlanFile.Load
import CoursePlan.Proofs.Level
import Mathlib.Data.List.Induction
import Mathlib.Data.List.Nodup

/-!
# The faults of a plan file

Everything that is wrong with a plan file, in the order of the file: first what is wrong with the
catalog entries, then what is wrong with the terms (`PlanFile.faults`).  Entries and terms are
judged in the light of those before them, so that of two that repeat each other the second one is
at fault.

A file without faults is `Sound` (`PlanFile.faults_eq_nil_iff`): its codes and labels are such, no
two entries have one code, no two labels denote one term, and all codes in the terms are in the
catalog.
-/

namespace CoursePlan

/-! ## Looking at members after those before them -/

/-- What there is to say about the members of a list, each seen together with those before it. -/
def noticed {α β : Type} (f : List α → α → List β) (l : List α) : List β :=
  l.zipIdx.flatMap (fun (a, i) => f (l.take i) a)

section Noticed

variable {α β κ γ : Type} {f : List α → α → List β} {l : List α}

@[simp] theorem noticed_nil (f : List α → α → List β) : noticed f [] = [] := rfl

/-- There is one more member to say something about, and it is seen with all the others before it.
-/
theorem noticed_concat (f : List α → α → List β) (l : List α) (a : α) :
    noticed f (l ++ [a]) = noticed f l ++ f l a := by
  have htake : ∀ b ∈ l.zipIdx, f ((l ++ [a]).take b.2) b.1 = f (l.take b.2) b.1 := by
    rintro ⟨b, i⟩ hb
    have hi : i < l.length := List.snd_lt_of_mem_zipIdx hb
    rw [List.take_append_of_le_length (Nat.le_of_lt hi)]
  simp only [noticed, List.zipIdx_append, List.flatMap_append, List.flatMap_congr htake]
  simp

/-- Members may be turned into others before they are looked at, or when they are. -/
theorem noticed_map (f : List α → α → List β) (g : γ → α) (l : List γ) :
    noticed f (l.map g) = noticed (fun before c => f (before.map g) (g c)) l := by
  induction l using List.reverseRecOn with
  | nil => rfl
  | append_singleton l c ih =>
    rw [List.map_append, List.map_singleton, noticed_concat, noticed_concat, ih]

theorem exists_of_mem_noticed {b : β} (h : b ∈ noticed f l) :
    ∃ before, ∃ a ∈ l, b ∈ f before a := by
  obtain ⟨⟨a, i⟩, hmem, hb⟩ := List.mem_flatMap.1 h
  exact ⟨l.take i, a, List.fst_mem_of_mem_zipIdx hmem, hb⟩

/-- Members that are judged by themselves. -/
theorem noticed_const (g : α → List β) (l : List α) : noticed (fun _ => g) l = l.flatMap g := by
  induction l using List.reverseRecOn with
  | nil => rfl
  | append_singleton l a ih =>
    rw [noticed_concat, ih, List.flatMap_append, List.flatMap_singleton]

/-- Where each member has to have a key of its own, there is nothing to say exactly if all keys are
there and differ. -/
theorem noticed_eq_nil_iff (key : α → Option κ) (P : α → Prop)
    (h : ∀ before a, f before a = [] ↔
      ((key a).isSome = true ∧ key a ∉ before.map key) ∧ P a) :
    noticed f l = [] ↔ (∀ a ∈ l, (key a).isSome = true ∧ P a) ∧ (l.map key).Nodup := by
  induction l using List.reverseRecOn with
  | nil => simp
  | append_singleton l a ih =>
    have hnodup : ((l ++ [a]).map key).Nodup ↔ (l.map key).Nodup ∧ key a ∉ l.map key := by
      rw [List.map_append, List.map_singleton, ← List.concat_eq_append, List.nodup_concat,
        and_comm]
    rw [noticed_concat, List.append_eq_nil_iff, ih, h, hnodup]
    simp only [List.forall_mem_append, List.forall_mem_singleton]
    tauto

end Noticed

/-! ## The faults of entries and terms -/

namespace CatalogEntry

/-- The code of the entry, if it is one. -/
def code? (e : CatalogEntry) : Option CourseCode :=
  CourseCode.parse? e.code

/-- What is wrong with an entry that comes after some others. -/
def faults (before : List CatalogEntry) (e : CatalogEntry) : List PlanFileError :=
  match e.code? with
  | none => [.invalidCourseCode e.code]
  | some code => if some code ∈ before.map code? then [.duplicateCourse code] else []

/-- An entry is right if it has a code, and none before it has the same. -/
theorem faults_eq_nil_iff {before : List CatalogEntry} {e : CatalogEntry} :
    e.faults before = [] ↔ e.code?.isSome = true ∧ e.code? ∉ before.map code? := by
  unfold faults
  cases h : e.code? with
  | none => simp
  | some code => by_cases hmem : some code ∈ before.map code? <;> simp [hmem]

end CatalogEntry

namespace PlanFile

/-- The label denotes the term with the index. -/
def Denotes (label : String) (index : Nat) : Prop :=
  index < termCount ∧ Level.parse label = .ok (Level.ofIndex index)

/-- A label is read as the index of the term that it denotes. -/
theorem termIndex?_eq_some_iff {label : String} {index : Nat} :
    termIndex? label = some index ↔ Denotes label index := by
  rw [Denotes, Level.parse_eq_ok_iff]
  constructor
  · intro h
    obtain ⟨l, hl, hindex⟩ := Option.bind_eq_some_iff.1 h
    split at hindex
    · next hlt =>
      cases hindex
      exact ⟨hlt, by rw [l.ofIndex_toNat, hl]⟩
    · cases hindex
  · rintro ⟨hlt, hl⟩
    have hle : index ≤ Numeral.max32 := Nat.le_trans (Nat.le_of_lt hlt) (by decide)
    refine Option.bind_eq_some_iff.2 ⟨_, hl, ?_⟩
    rw [Level.toNat_ofIndex, Nat.min_eq_left hle, if_pos hlt]

/-- Whether what is written is the code of a catalog entry. -/
def refers (catalog : List CatalogEntry) (written : String) : Bool :=
  (CourseCode.parse? written).any (fun code => decide (some code ∈ catalog.map CatalogEntry.code?))

/-- A reference is one to the catalog if some entry there has the code that it is read as. -/
theorem refers_iff {catalog : List CatalogEntry} {written : String} :
    refers catalog written = true ↔
      ∃ code, CourseCode.parse? written = some code ∧ ∃ e ∈ catalog, e.code? = some code := by
  simp [refers, Option.any_eq_true]

end PlanFile

namespace TermSection

/-- The index of the term that the label denotes, if it denotes one. -/
def index? (s : TermSection) : Option Nat :=
  PlanFile.termIndex? s.label

/-- What is wrong with the label of a term that comes after some others. -/
def labelFaults (before : List TermSection) (s : TermSection) : List PlanFileError :=
  match s.index? with
  | none => [.invalidTermLabel s.label]
  | some index => if some index ∈ before.map index? then [.duplicateTerm s.label] else []

/-- What is wrong with the codes in a term. -/
def referenceFaults (catalog : List CatalogEntry) (s : TermSection) : List PlanFileError :=
  s.codes.flatMap fun written =>
    if PlanFile.refers catalog written then [] else [.unknownCourse s.label written]

/-- The label of a section is right if it denotes a term, and none before it denotes the same. -/
theorem labelFaults_eq_nil_iff {before : List TermSection} {s : TermSection} :
    s.labelFaults before = [] ↔ s.index?.isSome = true ∧ s.index? ∉ before.map index? := by
  unfold labelFaults
  cases h : s.index? with
  | none => simp
  | some index => by_cases hmem : some index ∈ before.map index? <;> simp [hmem]

/-- The references of a section are right if every single one is. -/
theorem referenceFaults_eq_nil_iff {catalog : List CatalogEntry} {s : TermSection} :
    s.referenceFaults catalog = [] ↔
      ∀ written ∈ s.codes, PlanFile.refers catalog written = true := by
  simp [referenceFaults]

end TermSection

/-! ## The faults of a file -/

namespace PlanFile

/-- What is wrong with a plan file, in the order of the file.  All entries come before all terms,
and in a term the label comes before the codes. -/
def faults (f : PlanFile) : List PlanFileError :=
  noticed CatalogEntry.faults f.catalog ++
    noticed (fun before s => s.labelFaults before ++ s.referenceFaults f.catalog) f.sections

/-- Nothing is wrong with a plan file. -/
structure Sound (f : PlanFile) : Prop where
  codes : ∀ e ∈ f.catalog, ∃ code, CourseCode.parse? e.code = some code
  codes_distinct : f.catalog.Pairwise
    (fun e e' => CourseCode.parse? e.code ≠ CourseCode.parse? e'.code)
  labels : ∀ s ∈ f.sections, ∃ index, Denotes s.label index
  labels_distinct : f.sections.Pairwise
    (fun s s' => ∀ index, Denotes s.label index → ¬ Denotes s'.label index)
  references : ∀ s ∈ f.sections, ∀ written ∈ s.codes,
    ∃ code, CourseCode.parse? written = some code ∧
      ∃ e ∈ f.catalog, CourseCode.parse? e.code = some code

variable {f : PlanFile}

/-- A file is sound if its entries are, its sections are, and no two sections denote one term. -/
theorem sound_iff : f.Sound ↔
    ((∀ e ∈ f.catalog, e.code?.isSome = true) ∧ (f.catalog.map CatalogEntry.code?).Nodup) ∧
      (∀ s ∈ f.sections, s.index?.isSome = true ∧
        ∀ written ∈ s.codes, refers f.catalog written = true) ∧
      (f.sections.map TermSection.index?).Nodup := by
  simp only [Option.isSome_iff_exists, List.Nodup, List.pairwise_map, refers_iff]
  constructor
  · intro h
    refine ⟨⟨h.codes, h.codes_distinct⟩, ?_, ?_⟩
    · intro s hs
      obtain ⟨index, hindex⟩ := h.labels s hs
      exact ⟨⟨index, termIndex?_eq_some_iff.2 hindex⟩, h.references s hs⟩
    · refine h.labels_distinct.imp_of_mem ?_
      intro s s' hs _ hne heq
      obtain ⟨index, hindex⟩ := h.labels s hs
      refine hne index hindex (termIndex?_eq_some_iff.1 ?_)
      exact heq.symm.trans (termIndex?_eq_some_iff.2 hindex)
  · rintro ⟨⟨hcodes, hdistinct⟩, hsections, hindices⟩
    refine ⟨hcodes, hdistinct, ?_, ?_, ?_⟩
    · intro s hs
      obtain ⟨index, hindex⟩ := (hsections s hs).1
      exact ⟨index, termIndex?_eq_some_iff.1 hindex⟩
    · refine hindices.imp ?_
      intro s s' hne index hs hs'
      exact hne ((termIndex?_eq_some_iff.2 hs).trans (termIndex?_eq_some_iff.2 hs').symm)
    · intro s hs
      exact (hsections s hs).2

/-- **A file has no faults exactly if it is sound.** -/
theorem faults_eq_nil_iff : f.faults = [] ↔ f.Sound := by
  rw [sound_iff, faults, List.append_eq_nil_iff,
    noticed_eq_nil_iff CatalogEntry.code? (fun _ => True),
    noticed_eq_nil_iff TermSection.index?
      (fun s => ∀ written ∈ s.codes, refers f.catalog written = true)]
  · simp
  · intro before s
    rw [List.append_eq_nil_iff, TermSection.labelFaults_eq_nil_iff,
      TermSection.referenceFaults_eq_nil_iff]
  · intro before e
    rw [CatalogEntry.faults_eq_nil_iff, and_true]

end PlanFile

end CoursePlan
