import CoursePlan.Proofs.PlanFile.Loading
import Mathlib.Data.List.Perm.Basic

/-!
# Plan files in other words

A plan file may list its entries and its terms in another order, and spell codes and labels in
another way (`PlanFile.Reworded`).  That does not matter to loading (`PlanFile.load_reworded`): both
files are loaded or neither, and what is loaded is the same but for the ids that are drawn for
entries without one.  Since the ids drawn for one file tell nothing about those drawn for another,
"the same" is meant up to a renaming of ids that keeps the assigned ones (`Catalog.Redraws`).
-/

namespace CoursePlan

/-! ## Courses and plans under other ids -/

section Renamed

variable {ρ : CourseId → CourseId}

/-- The course under the new name of its id. -/
def Course.renamed (ρ : CourseId → CourseId) (c : Course) : Course :=
  c.withId (ρ c.id)

@[simp] theorem Course.id_renamed (c : Course) : (c.renamed ρ).id = ρ c.id := rfl

namespace Term

/-- The term with all courses renamed. -/
def renamed (ρ : CourseId → CourseId) (t : Term) : Term :=
  { t with placements := t.placements.map (fun q => { q with course := q.course.renamed ρ }) }

@[simp] theorem nextPosition_renamed (t : Term) : (t.renamed ρ).nextPosition = t.nextPosition := by
  simp only [nextPosition, renamed, List.foldr_map]

/-- A course may be renamed before it is added or afterwards. -/
theorem renamed_add (t : Term) (c : Course) :
    (t.add c).renamed ρ = (t.renamed ρ).add (c.renamed ρ) := by
  rw [add, add, nextPosition_renamed]
  simp only [renamed, List.map_append, List.map_singleton]

/-- Courses may be renamed before they are added or afterwards. -/
theorem renamed_addAll (t : Term) (cs : List Course) :
    (t.addAll cs).renamed ρ = (t.renamed ρ).addAll (cs.map (Course.renamed ρ)) := by
  induction cs using List.reverseRecOn with
  | nil => rfl
  | append_singleton cs c ih =>
    rw [List.map_append, List.map_singleton, addAll_concat, addAll_concat, renamed_add, ih]

end Term

namespace Plan

/-- The plan with all courses renamed. -/
def renamed (ρ : CourseId → CourseId) (p : Plan) : Plan where
  name := p.name
  terms := p.terms.map (Term.renamed ρ)
  ordered := by
    rw [← p.ordered, List.map_map]
    rfl

/-- Courses may be renamed before they are placed. -/
theorem renamed_filled (name : String) (courses : Nat → List Course) :
    (filled name courses).renamed ρ =
      filled name (fun i => (courses i).map (Course.renamed ρ)) := by
  simp only [renamed, filled, List.map_map]
  congr 1
  apply List.map_congr_left
  intro i _
  exact Term.renamed_addAll (Term.empty i) (courses i)

end Plan

end Renamed

/-! ## Lists in another order -/

/-- The members of a list, brought into some order, correspond one by one to those of another. -/
def Rearranged {α : Type} (R : α → α → Prop) (l l' : List α) : Prop :=
  ∃ reordered, reordered.Perm l ∧ List.Forall₂ R reordered l'

namespace Rearranged

variable {α β : Type} {R : α → α → Prop} {l l' : List α} {a : α}

theorem symm (hR : ∀ {a b}, R a b → R b a) (h : Rearranged R l l') : Rearranged R l' l := by
  obtain ⟨reordered, hperm, hall⟩ := h
  have hcomp : Relation.Comp (List.Forall₂ R) List.Perm l' l :=
    ⟨reordered, (hall.imp (fun _ _ => hR)).flip, hperm⟩
  rw [List.forall₂_comp_perm_eq_perm_comp_forall₂] at hcomp
  obtain ⟨reordered', hperm', hall'⟩ := hcomp
  exact ⟨reordered', hperm'.symm, hall'⟩

theorem exists_mem (h : Rearranged R l l') (ha : a ∈ l) : ∃ b ∈ l', R a b := by
  obtain ⟨reordered, hperm, hall⟩ := h
  exact exists_of_forall₂ hall (hperm.mem_iff.2 ha)

/-- What corresponding members have in common, both lists have in common. -/
theorem perm_map {key : α → β} (hkey : ∀ a b, R a b → key a = key b) (h : Rearranged R l l') :
    (l.map key).Perm (l'.map key) := by
  obtain ⟨reordered, hperm, hall⟩ := h
  rw [← map_eq_of_forall₂ hkey hall]
  exact (hperm.map key).symm

end Rearranged

/-! ## Reworded files -/

/-- An entry whose code is spelled in another way, if at all. -/
structure CatalogEntry.Respelled (e e' : CatalogEntry) : Prop where
  code : CourseCode.parse? e'.code = CourseCode.parse? e.code
  others : e' = { e with code := e'.code }

/-- A term whose label and codes are spelled in another way, if at all. -/
structure TermSection.Respelled (s s' : TermSection) : Prop where
  label : ∀ level, Level.parse s'.label = .ok level ↔ Level.parse s.label = .ok level
  codes : List.Forall₂
    (fun written written' => CourseCode.parse? written' = CourseCode.parse? written)
    s.codes s'.codes

/-- A plan file that says the same in another order and spelling. -/
structure PlanFile.Reworded (f g : PlanFile) : Prop where
  name : g.name = f.name
  program : g.program = f.program
  catalog : Rearranged CatalogEntry.Respelled f.catalog g.catalog
  sections : Rearranged TermSection.Respelled f.sections g.sections

namespace CatalogEntry.Respelled

variable {e e' : CatalogEntry}

theorem symm (h : e.Respelled e') : e'.Respelled e where
  code := h.code.symm
  others := by rw [h.others]

theorem toCourse_eq (h : e.Respelled e') (code : CourseCode) (fresh : CourseId) :
    e'.toCourse code fresh = e.toCourse code fresh := by
  rw [h.others]
  rfl

end CatalogEntry.Respelled

namespace TermSection.Respelled

variable {s s' : TermSection}

theorem symm (h : s.Respelled s') : s'.Respelled s where
  label level := (h.label level).symm
  codes := (h.codes.imp (fun _ _ => Eq.symm)).flip

/-- Labels that denote the same level denote the same term. -/
theorem index?_eq (h : s.Respelled s') : s'.index? = s.index? := by
  apply Option.ext
  intro index
  rw [index?, index?, PlanFile.termIndex?_eq_some_iff, PlanFile.termIndex?_eq_some_iff,
    PlanFile.Denotes, PlanFile.Denotes, h.label]

/-- References with the same codes find the same courses, up to the names of ids. -/
theorem courses_eq (h : s.Respelled s') {ρ : CourseId → CourseId} {l m : Catalog}
    (hfind : ∀ code, m.find? code = (l.find? code).map (Course.renamed ρ)) :
    s'.courses m = (s.courses l).map (Course.renamed ρ) := by
  have hcodes : s.codes.map CourseCode.parse? = s'.codes.map CourseCode.parse? :=
    map_eq_of_forall₂ (fun _ _ => Eq.symm) h.codes
  have hfilter : ∀ (codes : List String) (catalog : Catalog),
      codes.filterMap (fun written => (CourseCode.parse? written).bind catalog.find?) =
        (codes.map CourseCode.parse?).filterMap (fun code? => code?.bind catalog.find?) := by
    intro codes catalog
    rw [List.filterMap_map]
    rfl
  rw [courses, courses, hfilter, hfilter, ← hcodes, List.map_filterMap]
  apply List.filterMap_congr
  intro code? _
  cases code? with
  | none => rfl
  | some code => exact hfind code

end TermSection.Respelled

namespace PlanFile

variable {f g : PlanFile} {serial serial' : Nat}

namespace Reworded

theorem symm (h : f.Reworded g) : g.Reworded f where
  name := h.name.symm
  program := h.program.symm
  catalog := h.catalog.symm CatalogEntry.Respelled.symm
  sections := h.sections.symm TermSection.Respelled.symm

/-- Reworded files have the same codes in their catalogs, up to order. -/
theorem codes_perm (h : f.Reworded g) :
    (f.catalog.map CatalogEntry.code?).Perm (g.catalog.map CatalogEntry.code?) :=
  h.catalog.perm_map (fun _ _ he => he.code.symm)

/-- Reworded files have sections for the same terms, up to order. -/
theorem indices_perm (h : f.Reworded g) :
    (f.sections.map TermSection.index?).Perm (g.sections.map TermSection.index?) :=
  h.sections.perm_map (fun _ _ hs => hs.index?_eq.symm)

/-- A reference is one to both catalogs or to neither. -/
theorem refers_eq (h : f.Reworded g) {written written' : String}
    (hcode : CourseCode.parse? written' = CourseCode.parse? written) :
    refers g.catalog written' = refers f.catalog written := by
  simp only [refers, hcode, h.codes_perm.mem_iff]

/-- Nothing is wrong with a file if nothing is wrong with it in other words. -/
theorem sound (h : f.Reworded g) (hf : f.Sound) : g.Sound := by
  rw [sound_iff] at hf ⊢
  obtain ⟨⟨hcodes, hdistinct⟩, hsections, hindices⟩ := hf
  refine ⟨⟨?_, h.codes_perm.nodup_iff.1 hdistinct⟩, ?_, h.indices_perm.nodup_iff.1 hindices⟩
  · intro e' he'
    obtain ⟨e, he, hspelled⟩ := h.symm.catalog.exists_mem he'
    have hcode : e'.code? = e.code? := hspelled.code.symm
    rw [hcode]
    exact hcodes e he
  · intro s' hs'
    obtain ⟨s, hs, hspelled⟩ := h.symm.sections.exists_mem hs'
    obtain ⟨hindex, hrefers⟩ := hsections s hs
    rw [← hspelled.index?_eq]
    refine ⟨hindex, ?_⟩
    intro written' hwritten'
    obtain ⟨written, hwritten, hcode⟩ := exists_of_forall₂ hspelled.codes hwritten'
    rw [h.refers_eq hcode.symm]
    exact hrefers written hwritten

end Reworded

end PlanFile

/-! ## Catalogs with other drawn ids -/

/-- The same course, with another drawn id if its id was drawn. -/
inductive Course.Redrawn : Course → Course → Prop where
  | kept {c : Course} (v : BitVec 128) (h : c.id = .assigned v) : Redrawn c c
  | drawn {c : Course} (k k' : Nat) (h : c.id = .drawn k) : Redrawn c (c.withId (.drawn k'))

/-- Drawing another id keeps the code. -/
theorem Course.Redrawn.code_eq {c d : Course} (h : c.Redrawn d) : d.code = c.code := by
  cases h <;> rfl

theorem Course.Redrawn.symm {c d : Course} (h : c.Redrawn d) : d.Redrawn c := by
  cases h with
  | kept v hv => exact .kept v hv
  | drawn k k' hk =>
    have hback : c = (c.withId (.drawn k')).withId (.drawn k) := by
      rw [Course.withId, Course.withId, ← hk]
    rw [hback]
    exact .drawn k' k rfl

/-- An entry gives the same course each time, up to a drawn id. -/
theorem CatalogEntry.redrawn_toCourse (e : CatalogEntry) (code : CourseCode) (n n' : Nat) :
    (e.toCourse code (.drawn n)).Redrawn (e.toCourse code (.drawn n')) := by
  rw [e.toCourse_eq, e.toCourse_eq]
  cases e.id with
  | none => exact .drawn n n' rfl
  | some v => exact .kept v rfl

namespace Catalog

/-- No two courses of the catalog have one code, or one drawn id. -/
structure Distinct (catalog : Catalog) : Prop where
  codes : (catalog.map Course.code).Nodup
  drawn : ∀ c ∈ catalog, ∀ d ∈ catalog, ∀ k, c.id = .drawn k → d.id = .drawn k → c = d

/-- Two catalogs have the same courses, up to drawn ids. -/
structure Agrees (l m : Catalog) : Prop where
  forth : ∀ c ∈ l, ∃ d ∈ m, c.Redrawn d
  back : ∀ d ∈ m, ∃ c ∈ l, c.Redrawn d

/-- The course of a catalog with a drawn id. -/
def drawn? (catalog : Catalog) (k : Nat) : Option Course :=
  List.find? (fun c => decide (c.id = .drawn k)) catalog

/-- The id that a second catalog has for the course with an id in a first one. -/
def redraw (l m : Catalog) : CourseId → CourseId
  | .assigned v => .assigned v
  | .drawn k =>
    match (l.drawn? k).bind (fun c => m.find? c.code) with
    | some d => d.id
    | none => .drawn k

/-- `ρ` renames drawn ids to drawn ids, those of the catalog to different ones. -/
structure Redraws (catalog : Catalog) (ρ : CourseId → CourseId) : Prop where
  assigned : ∀ v, ρ (.assigned v) = .assigned v
  drawn : ∀ k, ∃ k', ρ (.drawn k) = .drawn k'
  distinct : ∀ c ∈ catalog, ∀ d ∈ catalog, ρ c.id = ρ d.id → c.id = d.id

variable {l m : Catalog} {c : Course} {k : Nat}

/-- The course with a drawn id is the one course of the catalog that has it. -/
theorem Distinct.drawn?_eq_some_iff (hl : l.Distinct) :
    l.drawn? k = some c ↔ c ∈ l ∧ c.id = .drawn k := by
  constructor
  · intro hfind
    exact ⟨List.mem_of_find?_eq_some hfind, by simpa using List.find?_some hfind⟩
  · rintro ⟨hc, hk⟩
    have hsome : (l.drawn? k).isSome = true := List.find?_isSome.2 ⟨c, hc, by simpa using hk⟩
    obtain ⟨d, hd⟩ := Option.isSome_iff_exists.1 hsome
    have hdk : d.id = .drawn k := by simpa using List.find?_some hd
    rw [hd, hl.drawn d (List.mem_of_find?_eq_some hd) c hc k hdk hk]

/-- A course is found in the other catalog, under the new name of its id. -/
theorem Agrees.find?_code (h : l.Agrees m) (hl : l.Distinct) (hm : m.Distinct) (hc : c ∈ l) :
    m.find? c.code = some (c.renamed (redraw l m)) := by
  obtain ⟨d, hd, hredrawn⟩ := h.forth c hc
  have hfind : m.find? c.code = some d :=
    (find?_eq_some_iff hm.codes).2 ⟨hd, hredrawn.code_eq⟩
  rw [hfind]
  cases hredrawn with
  | kept v hv => rw [Course.renamed, hv, redraw, Course.withId, ← hv]
  | drawn k k' hk =>
    have hself : l.drawn? k = some c := hl.drawn?_eq_some_iff.2 ⟨hc, hk⟩
    simp only [Course.renamed, hk, redraw, hself, Option.bind_some, hfind]
    rfl

/-- What is looked up in the other catalog is what is found here, under the new name. -/
theorem Agrees.find?_eq (h : l.Agrees m) (hl : l.Distinct) (hm : m.Distinct) (code : CourseCode) :
    m.find? code = (l.find? code).map (Course.renamed (redraw l m)) := by
  cases hfind : l.find? code with
  | some c =>
    obtain ⟨hc, rfl⟩ := (find?_eq_some_iff hl.codes).1 hfind
    exact h.find?_code hl hm hc
  | none =>
    rw [Option.map_none, find?, List.find?_eq_none]
    intro d hd hcode
    obtain ⟨c, hc, hredrawn⟩ := h.back d hd
    have hnone := List.find?_eq_none.1 hfind c hc
    rw [← hredrawn.code_eq] at hnone
    exact hnone hcode

/-- Under the new name of its id, a course is in the other catalog. -/
theorem Agrees.renamed_mem (h : l.Agrees m) (hl : l.Distinct) (hm : m.Distinct) (hc : c ∈ l) :
    c.renamed (redraw l m) ∈ m :=
  ((find?_eq_some_iff hm.codes).1 (h.find?_code hl hm hc)).1

/-- The other catalog is this one under the new names, up to order. -/
theorem Agrees.perm (h : l.Agrees m) (hl : l.Distinct) (hm : m.Distinct) :
    m.Perm (l.map (Course.renamed (redraw l m))) := by
  have hcodes : ((l.map (Course.renamed (redraw l m))).map Course.code).Nodup := by
    rw [List.map_map]
    exact hl.codes
  refine (List.perm_ext_iff_of_nodup hm.codes.of_map hcodes.of_map).2 ?_
  intro d
  rw [List.mem_map]
  constructor
  · intro hd
    obtain ⟨c, hc, hredrawn⟩ := h.back d hd
    have hfind := (find?_eq_some_iff hm.codes).2 ⟨hd, hredrawn.code_eq⟩
    rw [h.find?_code hl hm hc] at hfind
    exact ⟨c, hc, Option.some.inj hfind⟩
  · rintro ⟨c, hc, rfl⟩
    exact h.renamed_mem hl hm hc

/-- A drawn id is renamed to a drawn one. -/
theorem Agrees.exists_redraw_drawn (h : l.Agrees m) (hl : l.Distinct) (hm : m.Distinct) (k : Nat) :
    ∃ k', redraw l m (.drawn k) = .drawn k' := by
  rw [redraw]
  cases hfind : l.drawn? k with
  | none => exact ⟨k, rfl⟩
  | some c =>
    obtain ⟨hc, hk⟩ := hl.drawn?_eq_some_iff.1 hfind
    obtain ⟨d, hd, hredrawn⟩ := h.forth c hc
    rw [Option.bind_some, (find?_eq_some_iff hm.codes).2 ⟨hd, hredrawn.code_eq⟩]
    cases hredrawn with
    | kept v hv => simp [hk] at hv
    | drawn _ k' => exact ⟨k', rfl⟩

/-- The new names keep assigned ids, and tell the drawn ones apart. -/
theorem Agrees.redraws (h : l.Agrees m) (hl : l.Distinct) (hm : m.Distinct) :
    l.Redraws (redraw l m) := by
  have hdrawn := h.exists_redraw_drawn hl hm
  refine ⟨fun _ => rfl, hdrawn, ?_⟩
  intro c hc d hd heq
  cases hcid : c.id with
  | assigned v =>
    cases hdid : d.id with
    | assigned w =>
      rw [hcid, hdid] at heq
      exact heq
    | drawn k =>
      obtain ⟨k', hk'⟩ := hdrawn k
      rw [hcid, hdid, hk'] at heq
      cases heq
  | drawn k =>
    obtain ⟨k', hk'⟩ := hdrawn k
    have hck : (c.renamed (redraw l m)).id = .drawn k' := by rw [Course.id_renamed, hcid, hk']
    have hdk : (d.renamed (redraw l m)).id = .drawn k' := by
      rw [Course.id_renamed, ← heq, hcid, hk']
    -- one course of the other catalog has the id, hence one code, hence comes from one course
    have hsame := hm.drawn _ (h.renamed_mem hl hm hc) _ (h.renamed_mem hl hm hd) k' hck hdk
    have hcode : (c.renamed (redraw l m)).code = (d.renamed (redraw l m)).code :=
      congrArg Course.code hsame
    rw [← hcid, List.inj_on_of_nodup_map hl.codes hc hd hcode]

end Catalog

namespace PlanFile

variable {f g : PlanFile} {serial serial' : Nat}

/-! ## Loading in other words -/

/-- The entries without an id are told apart by their numbers. -/
theorem Sound.distinct (h : f.Sound) (serial : Nat) : (f.courses serial).Distinct where
  codes := h.nodup_codes
  drawn c hc d hd k hck hdk := by
    have hentry : ∀ c ∈ f.courses serial, c.id = .drawn k → ∃ e,
        f.catalog[k - serial]? = some e ∧ CourseCode.parse? e.code = some c.code := by
      intro c hc hk
      obtain ⟨e, n, hmem, code, hcode, rfl⟩ := Catalog.mem_ofEntries.1 hc
      rw [e.toCourse_eq] at hk
      cases hid : e.id with
      | some v => simp [hid] at hk
      | none =>
        obtain rfl : n = k := by simpa [hid] using hk
        exact ⟨e, (List.mk_mem_zipIdx_iff_le_and_getElem?_sub.1 hmem).2, by
          rw [CatalogEntry.code_toCourse, ← hcode, CatalogEntry.code?]⟩
    obtain ⟨e, he, hcode⟩ := hentry c hc hck
    obtain ⟨e', he', hcode'⟩ := hentry d hd hdk
    have hsame : c.code = d.code := by
      rw [he] at he'
      cases he'
      exact Option.some.inj (hcode.symm.trans hcode')
    exact List.inj_on_of_nodup_map h.nodup_codes hc hd hsame

namespace Reworded

/-- Every course of a file has a counterpart in the reworded file, perhaps with another drawn id. -/
theorem exists_redrawn (h : f.Reworded g) (serial' : Nat) {c : Course}
    (hc : c ∈ f.courses serial) : ∃ d ∈ g.courses serial', c.Redrawn d := by
  obtain ⟨e, n, hmem, code, hcode, rfl⟩ := Catalog.mem_ofEntries.1 hc
  obtain ⟨e', he', hspelled⟩ := h.catalog.exists_mem (List.fst_mem_of_mem_zipIdx hmem)
  rw [← List.zipIdx_map_fst serial' g.catalog, List.mem_map] at he'
  obtain ⟨⟨e', n'⟩, hmem', rfl⟩ := he'
  refine ⟨e.toCourse code (.drawn n'), Catalog.mem_ofEntries.2 ?_, e.redrawn_toCourse code n n'⟩
  exact ⟨e', n', hmem', code, hspelled.code.trans hcode, hspelled.toCourse_eq code _⟩

/-- Reworded files have the same courses, up to drawn ids. -/
theorem agrees (h : f.Reworded g) (serial serial' : Nat) :
    (f.courses serial).Agrees (g.courses serial') where
  forth _ hc := h.exists_redrawn serial' hc
  back _ hd := by
    obtain ⟨c, hc, hredrawn⟩ := h.symm.exists_redrawn serial hd
    exact ⟨c, hc, hredrawn.symm⟩

/-- A term gets the same courses in both files. -/
theorem plan_eq (h : f.Reworded g) (hf : f.Sound) {ρ : CourseId → CourseId}
    (hfind : ∀ code, (g.courses serial').find? code =
      ((f.courses serial).find? code).map (Course.renamed ρ)) :
    g.plan serial' = (f.plan serial).renamed ρ := by
  rw [plan, plan, Plan.renamed_filled, h.name]
  congr 1
  funext index
  by_cases hlisted : ∃ s ∈ f.sections, s.index? = some index
  · obtain ⟨s, hs, hindex⟩ := hlisted
    obtain ⟨s', hs', hspelled⟩ := h.sections.exists_mem hs
    rw [placedBy_eq (sound_iff.1 hf).2.2 hs hindex,
      placedBy_eq (sound_iff.1 (h.sound hf)).2.2 hs' (hspelled.index?_eq.trans hindex)]
    exact hspelled.courses_eq hfind
  · rw [placedBy_eq_nil, placedBy_eq_nil, List.map_nil]
    · intro s hs hindex
      exact hlisted ⟨s, hs, hindex⟩
    · intro s' hs' hindex
      obtain ⟨s, hs, hspelled⟩ := h.symm.sections.exists_mem hs'
      exact hlisted ⟨s, hs, hspelled.index?_eq.trans hindex⟩

end Reworded

/-- **Loading does not depend on order and spelling.**  A file in other words is loaded if the file
is.  Then both yield the same plan and the same catalog, up to a renaming of drawn ids. -/
theorem load_reworded (h : f.Reworded g) (serial serial' : Nat) :
    ((∃ loaded, f.load serial = .ok loaded) ↔ ∃ loaded, g.load serial' = .ok loaded) ∧
      ∀ loaded loaded', f.load serial = .ok loaded → g.load serial' = .ok loaded' →
        ∃ ρ, loaded.catalog.Redraws ρ ∧ loaded'.plan = loaded.plan.renamed ρ ∧
          loaded'.catalog.Perm (loaded.catalog.map (Course.renamed ρ)) ∧
          ∀ code, loaded'.catalog.find? code =
            (loaded.catalog.find? code).map (Course.renamed ρ) := by
  have hiff : f.faults = [] ↔ g.faults = [] := by
    rw [faults_eq_nil_iff, faults_eq_nil_iff]
    exact ⟨h.sound, h.symm.sound⟩
  rw [load_eq, load_eq]
  constructor
  · simp only [firstFaultOr_eq_ok_iff, exists_and_left, exists_eq', and_true, hiff]
  · intro loaded loaded' hloaded hloaded'
    obtain ⟨hf, rfl⟩ := firstFaultOr_eq_ok_iff.1 hloaded
    obtain ⟨hg, rfl⟩ := firstFaultOr_eq_ok_iff.1 hloaded'
    have hl := (faults_eq_nil_iff.1 hf).distinct serial
    have hm := (faults_eq_nil_iff.1 hg).distinct serial'
    have hagrees := h.agrees serial serial'
    have hfind := hagrees.find?_eq hl hm
    exact ⟨_, hagrees.redraws hl hm, h.plan_eq (faults_eq_nil_iff.1 hf) hfind,
      hagrees.perm hl hm, hfind⟩

/-- The sample file with entries and terms the other way round, spelled in another way. -/
def inOtherWords : PlanFile :=
  { freelySpelled with
    catalog := [⟨"Ece 250", some 7, none, some "Prereq: ECE 105", none, none⟩,
      ⟨" ECE 105", none, some "Mechanics", none, none, none⟩]
    sections := [⟨"1a", ["ece 105", "Ece105"]⟩, ⟨"2A", ["ece250"]⟩] }

/-- The sample file and its other spelling say the same. -/
theorem reworded_inOtherWords : freelySpelled.Reworded inOtherWords where
  name := rfl
  program := rfl
  catalog := by
    refine ⟨_, List.Perm.swap _ _ _, .cons ⟨?_, rfl⟩ (.cons ⟨?_, rfl⟩ .nil)⟩
    · decide +kernel
    · decide +kernel
  sections := by
    have hfirst : Level.parse "1a" = Level.parse "1A" := by decide +kernel
    have hsecond : Level.parse "2A" = Level.parse " 2a " := by decide +kernel
    refine ⟨_, List.Perm.swap _ _ _, .cons ⟨?_, ?_⟩ (.cons ⟨?_, ?_⟩ .nil)⟩
    · intro level
      rw [hfirst]
    · exact .cons (by decide +kernel) (.cons (by decide +kernel) .nil)
    · intro level
      rw [hsecond]
    · exact .cons (by decide +kernel) .nil

/-- The two files load as one plan, although ids are drawn from 0 for the one and from 5 for the
other. -/
theorem load_reworded_inOtherWords : freelySpelled.Reworded inOtherWords ∧
    ∃ loaded loaded' ρ, freelySpelled.load 0 = .ok loaded ∧ inOtherWords.load 5 = .ok loaded' ∧
      loaded.catalog.Redraws ρ ∧ loaded'.plan = loaded.plan.renamed ρ := by
  have hreworded := reworded_inOtherWords
  have hfaults : freelySpelled.faults = [] := by decide +kernel
  have hloads : freelySpelled.load 0 = .ok _ :=
    (load_eq 0 freelySpelled).trans (firstFaultOr_eq_ok_iff.2 ⟨hfaults, rfl⟩)
  obtain ⟨hiff, hsame⟩ := load_reworded hreworded 0 5
  obtain ⟨loaded', hloads'⟩ := hiff.1 ⟨_, hloads⟩
  obtain ⟨ρ, hredraws, hplan, -⟩ := hsame _ loaded' hloads hloads'
  exact ⟨hreworded, _, loaded', ρ, hloads, hloads', hredraws, hplan⟩

end PlanFile

end CoursePlan
