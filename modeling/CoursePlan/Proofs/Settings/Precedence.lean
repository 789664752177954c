import CoursePlan.Proofs.Settings
import CoursePlan.Proofs.Toml.Range

/-!
# Which setting counts

A threshold can be set in three places.  What a setting says is told here without reading it
(`Setting.Says`): a flag is a number, the variable is a whole number with blanks around, and a file
is a document with a number under the two keys.

The settings that are there are asked one after the other, and the first one that is heeded decides
alone (`Settings.resolve_eq`).  Two kinds of settings are not heeded: a variable whose bytes are no
text, and a file that is no settings file.  They are passed over as if they were not there, and this
is the only way in which a setting that cannot be used is not refused (`Settings.resolve_exact`).
-/

namespace CoursePlan

open Text

/-! ## What a settings file says -/

namespace SettingsFile

open Toml (Value Table)

variable {text : String} {n : Nat} {v : Value}

/-- What stands under `validation` says that the threshold is `n`: it is a table with this number,
or an array that starts with it. -/
inductive SectionSays : Value → Nat → Prop
  | table {entries : Table} {n : Nat}
      (entry : entries.lookup "max_courses_per_term" = some (.integer n)) :
      SectionSays (.table entries) n
  | array (n : Nat) (items : List Value) : SectionSays (.array (.integer n :: items)) n

/-- The text is a document that says that the threshold is `n`. -/
def Says (text : String) (n : Nat) : Prop :=
  ∃ document v, Toml.read? text = some document ∧ document.lookup "validation" = some v ∧
    SectionSays v n

/-- The numbers of a settings file are the integers that are not negative. -/
theorem natural?_eq_some_iff : v.natural? = some n ↔ v = .integer n := by
  cases v with
  | integer m =>
    rw [Value.natural?, Value.integer.injEq]
    by_cases hm : 0 ≤ m
    · rw [if_pos hm, Option.some.injEq]
      omega
    · rw [if_neg hm]
      exact iff_of_false (by simp) (by omega)
  | _ => simp [Value.natural?]

/-- A section is read as setting the threshold that it says. -/
theorem section?_eq_some_iff : section? v = some n ↔ SectionSays v n := by
  cases v with
  | table entries =>
    have hread : section? (.table entries) =
        (entries.lookup "max_courses_per_term").bind Value.natural? := rfl
    rw [hread, Option.bind_eq_some_iff]
    constructor
    · rintro ⟨v, hlookup, hv⟩
      rw [natural?_eq_some_iff.1 hv] at hlookup
      exact .table hlookup
    · rintro ⟨hlookup⟩
      exact ⟨_, hlookup, natural?_eq_some_iff.2 rfl⟩
  | array items =>
    cases items with
    | nil => exact iff_of_false nofun nofun
    | cons v items =>
      have hread : section? (.array (v :: items)) = v.natural? := by
        simp [section?, Value.fields?, Table.required?]
      rw [hread, natural?_eq_some_iff]
      constructor
      · rintro rfl
        exact .array n items
      · rintro ⟨⟩
        rfl
  | _ => exact iff_of_false nofun nofun

/-- A settings file is read as setting the threshold that it says. -/
theorem read?_eq_some_iff : read? text = some n ↔ Says text n := by
  unfold read? Table.required?
  simp only [Option.bind_eq_bind, Option.bind_eq_some_iff, section?_eq_some_iff]
  constructor
  · rintro ⟨document, hdocument, v, hlookup, hv⟩
    exact ⟨document, v, hdocument, hlookup, hv⟩
  · rintro ⟨document, v, hdocument, hlookup, hv⟩
    exact ⟨document, hdocument, v, hlookup, hv⟩

/-- The number in a settings file is an integer of its document, and so it fits. -/
theorem Says.le (h : Says text n) : n ≤ Numeral.max64 := by
  obtain ⟨document, v, hread, hlookup, hsaid⟩ := h
  have hdocument : ∀ e ∈ document, e.2.InRange := by
    cases Toml.inRange_of_read? hread with
    | table each => exact each
  have hsection : v.InRange := hdocument _ (Toml.mem_of_lookup_eq_some hlookup)
  have hnumber : (Value.integer n).InRange := by
    cases hsaid with
    | table entry =>
      cases hsection with
      | table each => exact each _ (Toml.mem_of_lookup_eq_some entry)
    | array n items =>
      cases hsection with
      | array each => exact each _ List.mem_cons_self
  cases hnumber with
  | integer low high =>
    have hsmaller : Numeral.maxSigned64 ≤ Numeral.max64 := by decide
    omega

end SettingsFile

/-! ## The settings one after the other -/

/-- A place where a threshold is set, with what stands there: the number of the flag, the bytes of
the environment variable, or the text of the settings file. -/
inductive Setting where
  | flag (n : Nat)
  | environment (content : ByteArray)
  | file (text : String)

/-- What stands in each of the places where a threshold can be set. -/
structure Settings where
  flag : Option Nat
  environment : Option ByteArray
  file : Option String

/-- The settings that are there, the one that counts for most first. -/
def Settings.present (s : Settings) : List Setting :=
  (s.flag.map .flag).toList ++ (s.environment.map .environment).toList ++ (s.file.map .file).toList

/-- The threshold that counts when the settings file is at this path.  Bytes of the variable that
are no text are as good as no variable. -/
def Settings.resolve (path : String) (s : Settings) : Except ResolveError Nat :=
  resolveThreshold s.flag (s.environment.bind String.fromUTF8?) ⟨path, s.file⟩

namespace Setting

/-- The setting says that the threshold is `n`.  The variable and the file have to spell a whole
number of at most 64 bits. -/
inductive Says : Setting → Nat → Prop
  | flag (n : Nat) : Says (.flag n) n
  | environment {text : String} {n : Nat} (written : Numeral.IsWritten text.toList n)
      (fits : n ≤ Numeral.max64) : Says (.environment text.toUTF8) n
  | file {text : String} {n : Nat} (said : SettingsFile.Says text n) (fits : n ≤ Numeral.max64) :
      Says (.file text) n

/-- The setting is not passed over: a variable has to be text, whatever it says, and a file has to
say some threshold, be it a usable one or not. -/
def Heeded : Setting → Prop
  | .flag _ => True
  | .environment content => ∃ text : String, content = text.toUTF8
  | .file text => ∃ n, SettingsFile.Says text n

/-- The error that names the setting as the one that cannot be used. -/
def blame (path : String) : Setting → ThresholdError → ResolveError
  | .flag _ => .flag
  | .environment _ => .environment
  | .file _ => .file path

/-- What reading the setting comes to, unless it is passed over. -/
def answer : Setting → Option (Except ThresholdError Nat)
  | .flag n => some (Threshold.positive n)
  | .environment content => (String.fromUTF8? content).map fun text =>
      match Numeral.word64? (trim text.toList) with
      | none => .error (.notANumber text)
      | some n => Threshold.positive n
  | .file text => (SettingsFile.read? text).map Threshold.positive

/-- The threshold that counts when the setting decides, unless it is passed over. -/
def outcome (path : String) (x : Setting) : Option (Except ResolveError Nat) :=
  x.answer.map (·.mapError (x.blame path))

end Setting

/-- A text is read from its bytes, and from no others. -/
theorem fromUTF8?_eq_some_iff {content : ByteArray} {text : String} :
    String.fromUTF8? content = some text ↔ content = text.toUTF8 := by
  unfold String.fromUTF8?
  split
  · rw [Option.some.injEq]
    constructor
    · rintro rfl
      rfl
    · rintro rfl
      rfl
  · next hinvalid =>
    refine iff_of_false nofun ?_
    rintro rfl
    exact hinvalid text.isValidUTF8

namespace Setting

variable {x : Setting} {n : Nat}

/-- A threshold comes out just if the setting says it and it is not zero. -/
theorem answer_eq_ok_iff : x.answer = some (.ok n) ↔ x.Says n ∧ 1 ≤ n := by
  cases x with
  | flag m =>
    rw [answer, Option.some.injEq, Threshold.positive_eq_ok_iff]
    constructor
    · rintro ⟨rfl, hn⟩
      exact ⟨.flag m, hn⟩
    · rintro ⟨⟨⟩, hn⟩
      exact ⟨rfl, hn⟩
  | environment content =>
    rw [answer, Option.map_eq_some_iff]
    constructor
    · rintro ⟨text, htext, h⟩
      obtain rfl := fromUTF8?_eq_some_iff.1 htext
      split at h
      · cases h
      · next m hread =>
        obtain ⟨rfl, hn⟩ := Threshold.positive_eq_ok_iff.1 h
        obtain ⟨hwritten, hfits⟩ := Numeral.word64?_trim_eq_some_iff.1 hread
        exact ⟨.environment hwritten hfits, hn⟩
    · rintro ⟨hsaid, hn⟩
      cases hsaid with
      | environment hwritten hfits =>
        refine ⟨_, fromUTF8?_eq_some_iff.2 rfl, ?_⟩
        rw [Numeral.word64?_trim_eq_some_iff.2 ⟨hwritten, hfits⟩]
        exact Threshold.positive_eq_ok hn
  | file text =>
    rw [answer, Option.map_eq_some_iff]
    constructor
    · rintro ⟨m, hread, h⟩
      obtain ⟨rfl, hn⟩ := Threshold.positive_eq_ok_iff.1 h
      have hsaid := SettingsFile.read?_eq_some_iff.1 hread
      exact ⟨.file hsaid hsaid.le, hn⟩
    · rintro ⟨hsaid, hn⟩
      cases hsaid with
      | file hsaid _ =>
        exact ⟨n, SettingsFile.read?_eq_some_iff.2 hsaid, Threshold.positive_eq_ok hn⟩

/-- The outcome is a threshold just if the setting says it and it is not zero. -/
theorem outcome_eq_ok_iff {path : String} :
    x.outcome path = some (.ok n) ↔ x.Says n ∧ 1 ≤ n := by
  rw [← answer_eq_ok_iff, outcome, Option.map_eq_some_iff]
  constructor
  · rintro ⟨r, hr, h⟩
    cases r with
    | ok m =>
      cases h
      exact hr
    | error e => cases h
  · intro h
    exact ⟨.ok n, h, rfl⟩

/-- A setting has an answer just if it is heeded. -/
theorem isSome_answer_iff : x.answer.isSome ↔ x.Heeded := by
  cases x with
  | flag n => simp [answer, Heeded]
  | environment content =>
    simp only [answer, Heeded, Option.isSome_map, Option.isSome_iff_exists, fromUTF8?_eq_some_iff]
  | file text =>
    simp only [answer, Heeded, Option.isSome_map, Option.isSome_iff_exists,
      SettingsFile.read?_eq_some_iff]

end Setting

namespace Settings

variable {path : String} {s : Settings} {x : Setting} {below : List Setting} {n : Nat}

/-- With neither a flag nor the variable, the file decides, or else the default does. -/
theorem resolve_file (path : String) (file : Option String) :
    resolve path ⟨none, none, file⟩ =
      ((file.map Setting.file).toList.findSome? (Setting.outcome path)).getD (.ok 6) := by
  cases file with
  | none => rfl
  | some text =>
    cases hread : SettingsFile.read? text with
    | none =>
      simp [resolve, resolveThreshold, Threshold.ofVariable, SettingsFile.threshold, hread,
        Setting.outcome, Setting.answer, Threshold.default]
    | some n =>
      simp [resolve, resolveThreshold, Threshold.ofVariable, SettingsFile.threshold, hread,
        Setting.outcome, Setting.answer, Setting.blame]

/-- A variable that is text leaves nothing to the file. -/
theorem resolve_environment (path : String) (content : ByteArray) (file : Option String) :
    resolve path ⟨none, some content, file⟩ =
      ((Setting.environment content).outcome path).getD (resolve path ⟨none, none, file⟩) := by
  cases htext : String.fromUTF8? content with
  | none => simp [resolve, htext, Setting.outcome, Setting.answer]
  | some text =>
    have hvariable : resolveThreshold none (some text) ⟨path, file⟩ =
        (match Numeral.word64? (trim text.toList) with
          | none => Except.error (ThresholdError.notANumber text)
          | some n => Threshold.positive n).mapError .environment := by
      rw [resolveThreshold, Threshold.ofVariable]
      cases Numeral.word64? (trim text.toList) with
      | none => rfl
      | some n =>
        dsimp only
        cases Threshold.positive n <;> rfl
    simp [resolve, htext, hvariable, Setting.outcome, Setting.answer, Setting.blame]

/-- **The first setting that is heeded decides.** -/
theorem resolve_eq (path : String) (s : Settings) :
    s.resolve path = (s.present.findSome? (Setting.outcome path)).getD (.ok 6) := by
  obtain ⟨flag, environment, file⟩ := s
  cases flag with
  | some n => rfl
  | none =>
    cases environment with
    | none => exact resolve_file path file
    | some content =>
      rw [resolve_environment, resolve_file]
      show _ = (List.findSome? _ (.environment content :: (file.map Setting.file).toList)).getD _
      rw [List.findSome?_cons]
      cases (Setting.environment content).outcome path <;> rfl

/-- Whatever the settings are, no threshold is zero. -/
theorem one_le_of_resolve (h : s.resolve path = .ok n) : 1 ≤ n := by
  rw [resolve_eq] at h
  cases hfirst : s.present.findSome? (Setting.outcome path) with
  | none =>
    rw [hfirst] at h
    cases h
    decide
  | some r =>
    obtain ⟨x, -, hx⟩ := List.exists_of_findSome?_eq_some hfirst
    rw [hfirst, Option.getD_some] at h
    rw [h] at hx
    exact (Setting.outcome_eq_ok_iff.1 hx).2

/-- The answer of the first setting is what counts, an error being put down to that setting. -/
theorem resolve_of_answer {r : Except ThresholdError Nat} (h : s.present.head? = some x)
    (hr : x.answer = some r) : s.resolve path = r.mapError (x.blame path) := by
  obtain ⟨below, hpresent⟩ := List.head?_eq_some_iff.1 h
  rw [resolve_eq, hpresent, List.findSome?_cons, Setting.outcome, hr]
  rfl

/-- A first setting that is not heeded leaves the matter to those below it. -/
theorem resolve_of_not_heeded (h : s.present = x :: below) (hx : ¬x.Heeded) :
    s.resolve path = (below.findSome? (Setting.outcome path)).getD (.ok 6) := by
  have hnone : x.answer = none := by
    rwa [← Setting.isSome_answer_iff, Option.not_isSome_iff_eq_none] at hx
  rw [resolve_eq, h, List.findSome?_cons, Setting.outcome, hnone]
  rfl

/-- The settings below the first one stand on their own. -/
theorem exists_present_eq (h : s.present = x :: below) : ∃ s' : Settings, s'.present = below := by
  obtain ⟨flag, environment, file⟩ := s
  cases flag with
  | some n =>
    cases h
    exact ⟨⟨none, environment, file⟩, rfl⟩
  | none =>
    cases environment with
    | some content =>
      cases h
      exact ⟨⟨none, none, file⟩, rfl⟩
    | none =>
      cases file with
      | some text =>
        cases h
        exact ⟨⟨none, none, none⟩, rfl⟩
      | none => cases h

end Settings

/-! ## Whether a setting decides -/

namespace Setting

/-- The setting `x` decides alone on the threshold: what it says is the threshold, unless that is
zero or nothing, in which case there is an error that names it; and the settings below it make no
difference. -/
structure Decides (x : Setting) (path : String) (s : Settings) : Prop where
  ok_iff : ∀ n, s.resolve path = .ok n ↔ x.Says n ∧ 1 ≤ n
  refused : (¬∃ n, x.Says n ∧ 1 ≤ n) → ∃ e, s.resolve path = .error (x.blame path e)
  below : ∀ s' : Settings, s'.present.head? = some x → s'.resolve path = s.resolve path

/-- No other setting is there. -/
def alone : Setting → Settings
  | .flag n => ⟨some n, none, none⟩
  | .environment content => ⟨none, some content, none⟩
  | .file text => ⟨none, none, some text⟩

variable {x : Setting} {path : String} {s : Settings}

theorem present_alone : x.alone.present = [x] := by
  cases x <;> rfl

/-- A first setting that is heeded decides alone. -/
theorem decides_of_heeded (h : s.present.head? = some x) (hx : x.Heeded) : x.Decides path s := by
  obtain ⟨r, hr⟩ := Option.isSome_iff_exists.1 (isSome_answer_iff.2 hx)
  have hresolve : ∀ {s : Settings}, s.present.head? = some x →
      s.resolve path = r.mapError (x.blame path) := fun h => Settings.resolve_of_answer h hr
  have hsaid : ∀ n, x.Says n ∧ 1 ≤ n ↔ r = .ok n := by
    intro n
    rw [← answer_eq_ok_iff, hr, Option.some.injEq]
  refine ⟨?_, ?_, ?_⟩
  · intro n
    rw [hresolve h, hsaid]
    cases r with
    | ok m =>
      show Except.ok m = Except.ok n ↔ _
      rw [Except.ok.injEq, Except.ok.injEq]
    | error e => exact iff_of_false nofun nofun
  · intro hunusable
    cases r with
    | ok n => exact absurd ⟨n, (hsaid n).2 rfl⟩ hunusable
    | error e => exact ⟨e, hresolve h⟩
  · intro s' h'
    rw [hresolve h, hresolve h']

/-- A setting that is passed over would leave the default in force if it stood alone, and so it
decides nothing. -/
theorem heeded_of_decides (h : x.Decides path s) : x.Heeded := by
  apply Classical.byContradiction
  intro hx
  have halone : x.alone.resolve path = .ok 6 := Settings.resolve_of_not_heeded present_alone hx
  have hsame : x.alone.resolve path = s.resolve path := by
    apply h.below
    rw [present_alone]
    rfl
  rw [halone] at hsame
  have hanswer : x.answer = some (.ok 6) := answer_eq_ok_iff.2 ((h.ok_iff 6).1 hsame.symm)
  apply hx
  rw [← isSome_answer_iff, hanswer]
  rfl

end Setting

namespace Settings

/-- **Which setting counts.**  No threshold is zero, and where nothing is set it is 6.  Otherwise
the first setting that is there decides alone, just if it is not passed over: a threshold comes out
exactly when the setting says it and it is at least 1, all else is an error that names the setting,
and what the settings below it say makes no difference.  A variable that is no text and a file that
is no settings file are passed over, as if only the settings below were there. -/
theorem resolve_exact (path : String) (s : Settings) :
    (∀ n, s.resolve path = .ok n → 1 ≤ n) ∧
    (s.present = [] → s.resolve path = .ok 6) ∧
    ∀ x below, s.present = x :: below →
      (x.Decides path s ↔ x.Heeded) ∧
      (¬x.Heeded → ∃ s' : Settings, s'.present = below ∧ s.resolve path = s'.resolve path) := by
  refine ⟨fun n => one_le_of_resolve, ?_, ?_⟩
  · intro hnothing
    rw [resolve_eq, hnothing]
    rfl
  · intro x below hpresent
    constructor
    · constructor
      · exact Setting.heeded_of_decides
      · apply Setting.decides_of_heeded
        rw [hpresent]
        rfl
    · intro hx
      obtain ⟨s', hbelow⟩ := exists_present_eq hpresent
      refine ⟨s', hbelow, ?_⟩
      rw [resolve_of_not_heeded hpresent hx, resolve_eq, hbelow]

/-- A settings file whose header is not closed, so that it is no document. -/
def unclosedFile : String := "[validation\nmax_courses_per_term = 4\n"

/-- A settings file that sets zero. -/
def zeroFile : String := "[validation]\nmax_courses_per_term = 0\n"

/-- A byte that no text starts with. -/
def brokenContent : ByteArray := ⟨#[0xff]⟩

/-- A file with a heading that is not closed sets nothing. -/
theorem read?_unclosedFile : SettingsFile.read? unclosedFile = none := by
  decide +kernel

/-- Bytes that are no text are not heeded. -/
theorem not_heeded_brokenContent : ¬(Setting.environment brokenContent).Heeded := by
  rintro ⟨text, htext⟩
  have hread : String.fromUTF8? brokenContent = none := by decide +kernel
  rw [fromUTF8?_eq_some_iff.2 htext] at hread
  cases hread

theorem resolve_exact_passedOver :
    let spaced : Settings := ⟨none, some " +5 ".toUTF8, some unclosedFile⟩
    let broken : Settings := ⟨none, some brokenContent, some zeroFile⟩
    (spaced.present = [.environment " +5 ".toUTF8, .file unclosedFile] ∧
      (Setting.environment " +5 ".toUTF8).Heeded ∧
      broken.present = [.environment brokenContent, .file zeroFile] ∧
      ¬(Setting.environment brokenContent).Heeded) ∧
    (Setting.environment " +5 ".toUTF8).Decides "config.toml" spaced ∧
    ∃ s' : Settings, s'.present = [.file zeroFile] ∧
      broken.resolve "config.toml" = s'.resolve "config.toml" := by
  intro spaced broken
  have hheeded : (Setting.environment " +5 ".toUTF8).Heeded := ⟨" +5 ", rfl⟩
  have hspaced := (resolve_exact "config.toml" spaced).2.2 (.environment " +5 ".toUTF8)
    [.file unclosedFile] rfl
  have hbroken := (resolve_exact "config.toml" broken).2.2 (.environment brokenContent)
    [.file zeroFile] rfl
  exact ⟨⟨rfl, hheeded, rfl, not_heeded_brokenContent⟩, hspaced.1.2 hheeded,
    hbroken.2 not_heeded_brokenContent⟩

/-- **Not every setting that is there decides**: a settings file that cannot be read is all that is
there, and the threshold is 6. -/
theorem not_forall_decides :
    ¬∀ (path : String) (s : Settings) (x : Setting), s.present.head? = some x →
      x.Decides path s := by
  intro h
  have hdecides := h "config.toml" ⟨none, none, some unclosedFile⟩ (.file unclosedFile) rfl
  have hsix : resolve "config.toml" ⟨none, none, some unclosedFile⟩ = .ok 6 := by
    rw [resolve_file]
    simp [Setting.outcome, Setting.answer, read?_unclosedFile]
  cases ((hdecides.ok_iff 6).1 hsix).1 with
  | file hsaid _ =>
    have hread := SettingsFile.read?_eq_some_iff.2 hsaid
    rw [read?_unclosedFile] at hread
    cases hread

end Settings

end CoursePlan
