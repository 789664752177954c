import CoursePlan.Proofs.CourseCode.Blanks
import CoursePlan.Proofs.Requisite.Line
import CoursePlan.Proofs.Requisite.Locality

/-!
# The marker that decides

A clause can hold several markers.  They are looked for in a fixed order, `Antireq` first, then
`Coreq`, and `Prereq` last, and wherever a word starts.  So it is the first marker in this order,
not the one in front, that decides what a clause of one line demands: the courses behind the first
place where the strongest of its markers stands (`Marker.yields_of_firstAt`).  A marker in front
decides exactly when no stronger one stands behind it (`Marker.leading_decides_iff`).
-/

namespace CoursePlan

open Text

/-- The markers of a clause. -/
inductive Marker where
  | antireq
  | coreq
  | prereq
deriving DecidableEq

namespace Marker

/-- The word of a marker, in lower case. -/
def word : Marker → List Char
  | antireq => Clause.antireqMarker
  | coreq => Clause.coreqMarker
  | prereq => Clause.prereqMarker

/-- The place of a marker in the order in which markers are looked for; of two markers, the one with
the lower rank is the stronger one. -/
def rank : Marker → Nat
  | antireq => 0
  | coreq => 1
  | prereq => 2

variable {m n : Marker} {clause rest body : List Char} {codes codes' : List CourseCode}

theorem word_mem (m : Marker) :
    m.word ∈ [Clause.antireqMarker, Clause.coreqMarker, Clause.prereqMarker] := by
  cases m <;> decide

/-! ## What markers ask for -/

/-- The demand of the courses behind a marker, where `body` is the text behind it. -/
def demand (m : Marker) (body : List Char) (codes : List CourseCode) : Demand :=
  match m with
  | antireq => .antirequisite codes
  | coreq => .corequisite codes
  | prereq => .courses (Clause.operator? body codes) codes

/-- The demand is one for the courses of a list, of the kind that the marker asks for. -/
def Demands (m : Marker) (codes : List CourseCode) (d : Demand) : Prop :=
  match m with
  | antireq => d = .antirequisite codes
  | coreq => d = .corequisite codes
  | prereq => ∃ operator, d = .courses operator codes

theorem demands_demand (m : Marker) (body : List Char) (codes : List CourseCode) :
    m.Demands codes (m.demand body codes) := by
  cases m with
  | antireq => rfl
  | coreq => rfl
  | prereq => exact ⟨_, rfl⟩

/-- What a marker demands are the courses of the list. -/
theorem Demands.codes_eq {d : Demand} (h : m.Demands codes d) : d.codes = codes := by
  cases m with
  | antireq => rw [show d = .antirequisite codes from h, Demand.codes]
  | coreq => rw [show d = .corequisite codes from h, Demand.codes]
  | prereq =>
    obtain ⟨operator, rfl⟩ := h
    rfl

/-- The marker can be told from the demand. -/
theorem Demands.marker_unique {d : Demand} (h : m.Demands codes d) (h' : n.Demands codes' d) :
    m = n := by
  have hkind : ∀ {m : Marker} {codes : List CourseCode}, m.Demands codes d →
      d.kind = (m.demand [] []).kind := by
    intro m codes h
    cases m with
    | antireq => rw [show d = .antirequisite codes from h]; rfl
    | coreq => rw [show d = .corequisite codes from h]; rfl
    | prereq =>
      obtain ⟨operator, rfl⟩ := h
      rfl
  have heq := (hkind h).symm.trans (hkind h')
  cases m <;> cases n <;> first | rfl | exact absurd heq (by decide)

/-- A text with these requirements asks what the marker does for these courses, with one
requirement, or requires nothing if there are no courses. -/
def Yields (m : Marker) (codes : List CourseCode) (items : List Requirement) : Prop :=
  (codes = [] ∧ items = []) ∨ (codes ≠ [] ∧ ∃ r, items = [r] ∧ m.Demands codes r.demand)

/-- Requirements that a marker yields are yielded for one list of courses only. -/
theorem Yields.codes_unique {items : List Requirement} (h : m.Yields codes items)
    (h' : m.Yields codes' items) : codes = codes' := by
  rcases h with ⟨rfl, rfl⟩ | ⟨-, r, rfl, hdemands⟩
  · rcases h' with ⟨rfl, -⟩ | ⟨-, r, hitems, -⟩
    · rfl
    · cases hitems
  · rcases h' with ⟨-, hitems⟩ | ⟨-, r', hitems, hdemands'⟩
    · cases hitems
    · cases hitems
      rw [← hdemands.codes_eq, ← hdemands'.codes_eq]

/-! ## Bodies -/

/-- On one line, whatever follows a marker is its body, except for a colon and blanks, which mention
nothing. -/
theorem exists_body? (hline : '\n' ∉ rest) (hne : rest ≠ []) :
    ∃ body, Clause.body? rest = some body ∧
      CourseCode.mentioned body = CourseCode.mentioned rest := by
  have hcolon : CourseCode.mentioned (Clause.dropColon rest) = CourseCode.mentioned rest := by
    unfold Clause.dropColon
    split
    · exact (CourseCode.mentioned_cons (by decide) _).symm
    · rfl
  have hrest := (CourseCode.mentioned_trimStart (Clause.dropColon rest)).trans hcolon
  unfold Clause.body?
  split
  · next hblank =>
    -- the last character is a body without courses
    have hfilter : rest.filter (fun c => decide (c ≠ '\n')) = rest := by
      apply List.filter_eq_self.2
      intro c hc
      apply decide_eq_true
      rintro rfl
      exact hline hc
    rw [hblank] at hrest
    refine ⟨[rest.getLast hne], ?_, ?_⟩
    · rw [hfilter, List.getLast?_eq_some_getLast hne]
      rfl
    · rw [CourseCode.mentioned_singleton, ← hrest, CourseCode.mentioned_nil]
  · refine ⟨_, rfl, ?_⟩
    have hsub : ∀ c ∈ trimStart (Clause.dropColon rest), c ∈ rest := by
      intro c hc
      have hmem := (List.dropWhile_suffix isBlank).subset hc
      unfold Clause.dropColon at hmem
      split at hmem
      · exact List.mem_cons_of_mem _ hmem
      · exact hmem
    rw [Clause.firstLine_eq_self fun hmem => hline (hsub _ hmem), hrest]

/-! ## Where markers stand -/

/-- The marker stands in the clause, in any letter case: its word is read where a word can start,
and `rest` is what follows the word, which is something. -/
def StandsAt (m : Marker) (clause rest : List Char) : Prop :=
  ∃ front w, clause = front ++ (w ++ rest) ∧ w.map foldCase = m.word ∧
    (∀ x ∈ front.getLast?, isWordChar x = false) ∧ rest ≠ []

/-- The marker stands somewhere in the clause. -/
def StandsIn (m : Marker) (clause : List Char) : Prop :=
  ∃ rest, m.StandsAt clause rest

/-- No other place where the marker stands comes before this one. -/
def FirstAt (m : Marker) (clause rest : List Char) : Prop :=
  m.StandsAt clause rest ∧ ∀ other, m.StandsAt clause other → other.length ≤ rest.length

/-- A marker stands where a word starts with it, and something follows. -/
theorem standsAt_iff : m.StandsAt clause rest ↔
    rest ≠ [] ∧ ∃ start ∈ wordStarts false clause, dropWord? m.word start = some rest := by
  have hstarts : ∀ start, start ∈ wordStarts false clause ↔
      start ≠ [] ∧ ∃ before, clause = before ++ start ∧
        ∀ x ∈ before.getLast?, isWordChar x = false := by
    intro start
    exact mem_wordStarts_iff [] rfl
  simp only [hstarts, dropWord?_eq_some]
  constructor
  · rintro ⟨front, w, hclause, hw, hfront, hne⟩
    exact ⟨hne, w ++ rest, ⟨by simp [hne], front, hclause, hfront⟩, w, rfl, hw⟩
  · rintro ⟨hne, _, ⟨-, front, hclause, hfront⟩, w, rfl, hw⟩
    exact ⟨front, w, hclause, hw, hfront, hne⟩

theorem not_mem_of_standsAt (hline : '\n' ∉ clause) (h : m.StandsAt clause rest) : '\n' ∉ rest := by
  obtain ⟨front, w, rfl, -, -, -⟩ := h
  intro hmem
  exact hline (List.mem_append_right _ (List.mem_append_right _ hmem))

/-- On one line, nothing is marked exactly when the marker does not stand there. -/
theorem marked?_eq_none_iff (hline : '\n' ∉ clause) :
    Clause.marked? m.word clause = none ↔ ¬m.StandsIn clause := by
  rw [Clause.marked?, findAtWordStart_eq_none_iff]
  constructor
  · rintro h ⟨rest, hstands⟩
    obtain ⟨hne, start, hstart, hdrop⟩ := standsAt_iff.1 hstands
    obtain ⟨body, hbody, -⟩ := exists_body? (not_mem_of_standsAt hline hstands) hne
    have hread := h start hstart
    rw [hdrop, Option.bind_some, hbody] at hread
    cases hread
  · intro h start hstart
    cases hdrop : dropWord? m.word start with
    | none => rfl
    | some rest =>
      cases rest with
      | nil => rfl
      | cons x rest =>
        exact absurd ⟨_, standsAt_iff.2 ⟨List.cons_ne_nil x rest, start, hstart, hdrop⟩⟩ h

/-- What a word takes from a text is as long as the word. -/
theorem length_of_dropWord? {ws cs : List Char} (h : dropWord? ws cs = some rest) :
    cs.length = ws.length + rest.length := by
  obtain ⟨front, rfl, rfl⟩ := dropWord?_eq_some.1 h
  simp

/-- The body of a marker is what follows the first place where it stands. -/
theorem marked?_of_firstAt (hline : '\n' ∉ clause) (h : m.FirstAt clause rest) :
    ∃ body, Clause.marked? m.word clause = some body ∧
      CourseCode.mentioned body = CourseCode.mentioned rest := by
  obtain ⟨hstands, hfirst⟩ := h
  obtain ⟨hne, start, hstart, hdrop⟩ := standsAt_iff.1 hstands
  obtain ⟨body, hbody, hmentioned⟩ := exists_body? (not_mem_of_standsAt hline hstands) hne
  refine ⟨body, findAtWordStart_of_first hstart ?_ ?_, hmentioned⟩
  · rw [hdrop, Option.bind_some, hbody]
  · intro earlier hearlier hlength
    cases hdrop' : dropWord? m.word earlier with
    | none => rfl
    | some other =>
      cases other with
      | nil => rfl
      | cons x other =>
        have hle := hfirst (x :: other)
          (standsAt_iff.2 ⟨List.cons_ne_nil x other, earlier, hearlier, hdrop'⟩)
        have hlength₁ := length_of_dropWord? hdrop
        have hlength₂ := length_of_dropWord? hdrop'
        omega

/-! ## Level phrases -/

/-- The words `level at least` with blanks in between, in any letter case. -/
def IsLevelAtLeast (phrase : List Char) : Prop :=
  ∃ w₁ gap₁ w₂ gap₂ w₃, phrase = w₁ ++ (gap₁ ++ (w₂ ++ (gap₂ ++ w₃))) ∧
    w₁.map foldCase = ['l', 'e', 'v', 'e', 'l'] ∧ w₂.map foldCase = ['a', 't'] ∧
    w₃.map foldCase = ['l', 'e', 'a', 's', 't'] ∧
    (gap₁ ≠ [] ∧ ∀ x ∈ gap₁, isBlank x = true) ∧ (gap₂ ≠ [] ∧ ∀ x ∈ gap₂, isBlank x = true)

/-- The text has the words `level at least` in it. -/
def SaysLevelAtLeast (cs : List Char) : Prop :=
  ∃ phrase, phrase <:+: cs ∧ IsLevelAtLeast phrase

/-- Wherever a level phrase is read, the text has its words. -/
theorem saysLevelAtLeast_of_levelPhrase? {cs : List Char} {p : List Char × List Char}
    (h : Clause.levelPhrase? cs = some p) : SaysLevelAtLeast cs := by
  unfold Clause.levelPhrase? at h
  obtain ⟨cs₁, h₁, h⟩ := Option.bind_eq_some_iff.1 h
  obtain ⟨cs₂, h₂, h⟩ := Option.bind_eq_some_iff.1 h
  obtain ⟨cs₃, h₃, h⟩ := Option.bind_eq_some_iff.1 h
  obtain ⟨cs₄, h₄, h⟩ := Option.bind_eq_some_iff.1 h
  obtain ⟨cs₅, h₅, -⟩ := Option.bind_eq_some_iff.1 h
  obtain ⟨w₁, rfl, hlevel⟩ := dropWord?_eq_some.1 h₁
  obtain ⟨gap₁, rfl, hgap₁⟩ := exists_gap_of_dropBlanks? h₂
  obtain ⟨w₂, rfl, hat⟩ := dropWord?_eq_some.1 h₃
  obtain ⟨gap₂, rfl, hgap₂⟩ := exists_gap_of_dropBlanks? h₄
  obtain ⟨w₃, rfl, hleast⟩ := dropWord?_eq_some.1 h₅
  refine ⟨_, ⟨[], cs₅, ?_⟩, w₁, gap₁, w₂, gap₂, w₃, rfl, hlevel, hat, hleast, hgap₁, hgap₂⟩
  simp

/-- A text has the words of a level phrase if a part of it has them. -/
theorem SaysLevelAtLeast.mono {cs ds : List Char} (h : SaysLevelAtLeast cs) (hsub : cs <:+: ds) :
    SaysLevelAtLeast ds := by
  obtain ⟨phrase, hphrase, hlevel⟩ := h
  exact ⟨phrase, hphrase.trans hsub, hlevel⟩

/-- Without these words no level is found. -/
theorem find_levelPhrase?_eq_none {cs : List Char} (h : ¬SaysLevelAtLeast cs) :
    findAtWordStart Clause.levelPhrase? false cs = none := by
  cases hfind : findAtWordStart Clause.levelPhrase? false cs with
  | none => rfl
  | some p =>
    obtain ⟨front, rest, rfl, hread⟩ := exists_of_findAtWordStart hfind
    have hsub : rest <:+: front ++ rest := (List.suffix_append front rest).isInfix
    exact absurd ((saysLevelAtLeast_of_levelPhrase? hread).mono hsub) h

/-- A text without the word `level` does not say `level at least`. -/
theorem not_saysLevelAtLeast {cs : List Char}
    (h : ¬['l', 'e', 'v', 'e', 'l'] <:+: cs.map foldCase) : ¬SaysLevelAtLeast cs := by
  rintro ⟨_, hphrase, w₁, gap₁, w₂, gap₂, w₃, rfl, hlevel, -⟩
  apply h
  rw [← hlevel]
  exact ((List.prefix_append w₁ _).isInfix.trans hphrase).map foldCase

/-! ## The strongest marker -/

/-- Without a level phrase, the strongest marker alone makes the demand of its clause. -/
theorem demand?_of_marked? (hlevel : findAtWordStart Clause.levelPhrase? false clause = none)
    (hmarked : Clause.marked? m.word clause = some body)
    (hstrongest : ∀ k : Marker, k.rank < m.rank → Clause.marked? k.word clause = none) :
    Clause.demand? clause = (Clause.courses? body).map (m.demand body) := by
  unfold Clause.demand?
  cases m with
  | antireq =>
    have hmarked : Clause.marked? Clause.antireqMarker clause = some body := hmarked
    rw [hmarked]
    rfl
  | coreq =>
    have hantireq : Clause.marked? Clause.antireqMarker clause = none :=
      hstrongest antireq (by decide)
    have hmarked : Clause.marked? Clause.coreqMarker clause = some body := hmarked
    rw [hantireq, hmarked]
    rfl
  | prereq =>
    have hantireq : Clause.marked? Clause.antireqMarker clause = none :=
      hstrongest antireq (by decide)
    have hcoreq : Clause.marked? Clause.coreqMarker clause = none := hstrongest coreq (by decide)
    have hmarked : Clause.marked? Clause.prereqMarker clause = some body := hmarked
    rw [hantireq, hcoreq, hlevel, hmarked]
    rfl

/-- A clause whose demand is that of a marker yields the courses that its body mentions. -/
theorem yields_of_demand? (hclause : Requirements.IsClause clause)
    (hdemand : Clause.demand? clause = (Clause.courses? body).map (m.demand body)) :
    m.Yields (CourseCode.mentioned body) (Requirements.ofChars clause) := by
  rw [Requirements.ofChars_of_isClause hclause, hdemand]
  unfold Clause.courses?
  split
  · next hnil => exact .inl ⟨hnil, rfl⟩
  · next hne => exact .inr ⟨hne, _, rfl, m.demands_demand body _⟩

/-- **The strongest marker of a line decides**, with the courses behind the first place where it
stands. -/
theorem yields_of_firstAt (hclause : IsLine clause) (hlevel : ¬SaysLevelAtLeast clause)
    (hfirst : m.FirstAt clause rest)
    (hstrongest : ∀ k : Marker, k.rank < m.rank → ¬k.StandsIn clause) :
    m.Yields (CourseCode.mentioned rest) (Requirements.ofChars clause) := by
  obtain ⟨body, hmarked, hmentioned⟩ := marked?_of_firstAt hclause.oneLine hfirst
  rw [← hmentioned]
  refine yields_of_demand? hclause.isClause
    (demand?_of_marked? (find_levelPhrase?_eq_none hlevel) hmarked ?_)
  intro k hk
  exact (marked?_eq_none_iff hclause.oneLine).2 (hstrongest k hk)

/-- Among the markers of a clause there is a strongest one. -/
theorem exists_strongest (h : m.StandsIn clause) :
    ∃ n : Marker, n.rank ≤ m.rank ∧ n.StandsIn clause ∧
      ∀ k : Marker, k.rank < n.rank → ¬k.StandsIn clause := by
  induction hrank : m.rank using Nat.strongRecOn generalizing m with
  | ind r ih =>
    by_cases hstronger : ∃ k : Marker, k.rank < m.rank ∧ k.StandsIn clause
    · obtain ⟨k, hk, hstands⟩ := hstronger
      obtain ⟨n, hn, hstrongest⟩ := ih k.rank (hrank ▸ hk) hstands rfl
      exact ⟨n, by omega, hstrongest⟩
    · exact ⟨m, hrank.le, h, fun k hk hstands => hstronger ⟨k, hk, hstands⟩⟩

theorem StandsAt.length_le (h : m.StandsAt clause rest) : rest.length ≤ clause.length := by
  obtain ⟨front, w, rfl, -⟩ := h
  simp only [List.length_append]
  omega

/-- A marker that stands in a clause stands somewhere first. -/
theorem exists_firstAt (h : m.StandsIn clause) : ∃ rest, m.FirstAt clause rest := by
  obtain ⟨rest, hstands⟩ := h
  induction hleft : clause.length - rest.length using Nat.strongRecOn generalizing rest with
  | ind k ih =>
    by_cases hearlier : ∃ other, m.StandsAt clause other ∧ rest.length < other.length
    · obtain ⟨other, hother, hlength⟩ := hearlier
      have hle := hother.length_le
      exact ih _ (by omega) other hother rfl
    · refine ⟨rest, hstands, ?_⟩
      intro other hother
      exact Nat.le_of_not_lt fun hlength => hearlier ⟨other, hother, hlength⟩

/-- A marker in front stands nowhere earlier. -/
theorem firstAt_leading {w : List Char} (hw : w.map foldCase = m.word) (hne : rest ≠ []) :
    m.FirstAt (w ++ rest) rest := by
  refine ⟨⟨[], w, rfl, hw, ?_, hne⟩, ?_⟩
  · intro x hx
    cases hx
  · rintro other ⟨front, w', hclause, hw', -⟩
    have hlength := congrArg List.length hclause
    have hwords : w.length = w'.length := by
      rw [← List.length_map foldCase, hw, ← hw', List.length_map]
    simp only [List.length_append] at hlength
    omega

/-- **A marker in front decides exactly when no stronger one stands in the clause.**  Take a clause
of one line that starts with a marker and a colon, says nothing of a level, and names courses behind
the marker.  One requirement is read from it that asks for all these courses in the way of the
marker if and only if no stronger marker stands in the clause, and then it asks for them and no
others.  In any case the strongest marker that stands in the clause decides, with the courses behind
the first place where it stands. -/
theorem leading_decides_iff (m : Marker) (clause : String) (w rest : List Char)
    (hclause : clause.toList = w ++ ':' :: rest) (hw : w.map foldCase = m.word)
    (hline : IsLine clause.toList) (hlevel : ¬SaysLevelAtLeast clause.toList)
    (hrest : CourseCode.mentioned rest ≠ []) :
    ((∃ r, (Requirements.parse (some clause)).items = [r] ∧
        ∃ codes, m.Demands codes r.demand ∧ ∀ c ∈ CourseCode.mentioned rest, c ∈ codes) ↔
      ∀ n : Marker, n.rank < m.rank → ¬n.StandsIn clause.toList) ∧
    ((∀ n : Marker, n.rank < m.rank → ¬n.StandsIn clause.toList) →
      m.Yields (CourseCode.mentioned rest) (Requirements.parse (some clause)).items) ∧
    ∃ (n : Marker) (behind : List Char), n.FirstAt clause.toList behind ∧
      (∀ k : Marker, k.rank < n.rank → ¬k.StandsIn clause.toList) ∧
      n.Yields (CourseCode.mentioned behind) (Requirements.parse (some clause)).items := by
  rw [Requirements.items_parse_some]
  have hfirst : m.FirstAt clause.toList (':' :: rest) := by
    rw [hclause]
    exact firstAt_leading hw (List.cons_ne_nil _ _)
  have hleading : (∀ n : Marker, n.rank < m.rank → ¬n.StandsIn clause.toList) →
      m.Yields (CourseCode.mentioned rest) (Requirements.ofChars clause.toList) := by
    intro hstrongest
    have hyields := yields_of_firstAt hline hlevel hfirst hstrongest
    rwa [CourseCode.mentioned_cons (by decide)] at hyields
  obtain ⟨n, hrank, hstands, hstrongest⟩ := exists_strongest ⟨_, hfirst.1⟩
  obtain ⟨behind, hbehind⟩ := exists_firstAt hstands
  have hyields := yields_of_firstAt hline hlevel hbehind hstrongest
  refine ⟨⟨?_, ?_⟩, hleading, n, behind, hbehind, hstrongest, hyields⟩
  · rintro ⟨r, hitems, codes, hdemands, -⟩
    rcases hyields with ⟨-, hnil⟩ | ⟨-, r', hitems', hdemands'⟩
    · rw [hitems] at hnil
      cases hnil
    · rw [hitems] at hitems'
      cases hitems'
      obtain rfl := hdemands.marker_unique hdemands'
      exact hstrongest
  · intro hstrongest
    rcases hleading hstrongest with ⟨hnil, -⟩ | ⟨-, r, hitems, hdemands⟩
    · exact absurd hnil hrest
    · exact ⟨r, hitems, _, hdemands, fun c hc => hc⟩

/-- A clause with a stronger marker in front of a weaker one. -/
def mixedClause : String := "COREQ: CS 241, prereq ECE 250"

/-- A leading `COREQ`, behind which a weaker marker stands. -/
theorem leading_decides_iff_mixedClause :
    (mixedClause.toList = "COREQ".toList ++ ':' :: " CS 241, prereq ECE 250".toList ∧
      "COREQ".toList.map foldCase = coreq.word ∧ IsLine mixedClause.toList ∧
      ¬SaysLevelAtLeast mixedClause.toList ∧
      CourseCode.mentioned " CS 241, prereq ECE 250".toList ≠ []) ∧
    ((∃ r, (Requirements.parse (some mixedClause)).items = [r] ∧
        ∃ codes, coreq.Demands codes r.demand ∧
          ∀ c ∈ CourseCode.mentioned " CS 241, prereq ECE 250".toList, c ∈ codes) ↔
      ∀ n : Marker, n.rank < coreq.rank → ¬n.StandsIn mixedClause.toList) := by
  have hclause : mixedClause.toList = "COREQ".toList ++ ':' :: " CS 241, prereq ECE 250".toList := by
    decide
  have hw : "COREQ".toList.map foldCase = coreq.word := by decide
  have hline : IsLine mixedClause.toList := by decide
  have hlevel : ¬SaysLevelAtLeast mixedClause.toList := not_saysLevelAtLeast (by decide)
  have hrest : CourseCode.mentioned " CS 241, prereq ECE 250".toList ≠ [] := by decide +kernel
  exact ⟨⟨hclause, hw, hline, hlevel, hrest⟩,
    (leading_decides_iff coreq mixedClause _ _ hclause hw hline hlevel hrest).1⟩

/-- **The marker in front does not always decide**: behind `Prereq` and a course, `Coreq` and
another course make the clause a corequisite, without the first course. -/
theorem not_forall_leading_decides :
    ¬∀ (m : Marker) (clause : String) (w rest : List Char),
      clause.toList = w ++ ':' :: rest → w.map foldCase = m.word → IsLine clause.toList →
      ¬SaysLevelAtLeast clause.toList → CourseCode.mentioned rest ≠ [] →
      ∃ r, (Requirements.parse (some clause)).items = [r] ∧
        ∃ codes, m.Demands codes r.demand ∧ ∀ c ∈ CourseCode.mentioned rest, c ∈ codes := by
  intro h
  obtain ⟨r, hitems, codes, ⟨operator, hdemand⟩, -⟩ :=
    h prereq "Prereq: CS 241, Coreq: ECE 250" "Prereq".toList " CS 241, Coreq: ECE 250".toList
      (by decide) (by decide) (by decide) (not_saysLevelAtLeast (by decide)) (by decide +kernel)
  have hkinds : (Requirements.parse (some "Prereq: CS 241, Coreq: ECE 250")).items.map
      (fun r => r.demand.kind) = ["corequisite"] := by decide +kernel
  rw [hitems, List.map_singleton, hdemand, Demand.kind] at hkinds
  exact absurd hkinds (by decide)

end Marker

end CoursePlan
