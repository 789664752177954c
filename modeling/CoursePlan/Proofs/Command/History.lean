import CoursePlan.Command.Run
import CoursePlan.Proofs.Settings

/-!
# The settings file over time

The program is started time and again, and the settings file is all that one run leaves to the next.
A run with `init` that ends well writes the file; all others leave it as it is
(`Invocation.settings_outcome`).  So the threshold that was set last stays in force, however many
runs there are in between (`SettingsFile.settings_over_time`).
-/

namespace CoursePlan

open Numeral

variable {n : Nat} {force : Bool}

/-! ## One command -/

namespace Command

/-- Everything that `init` can come to: the file of the threshold, if it is a usable one and the
file may be written, and an error otherwise. -/
theorem runInit_cases (settings : SettingsFile) (n : Nat) (force : Bool) :
    (1 ≤ n ∧ n ≤ maxSigned64 ∧ (settings.text = none ∨ force = true)) ∧
        (∃ printed text, SettingsFile.write n = .ok text ∧
          runInit settings n force = .ok (printed, text)) ∨
      ¬ (1 ≤ n ∧ n ≤ maxSigned64 ∧ (settings.text = none ∨ force = true)) ∧
        ∃ chain, runInit settings n force = .error chain := by
  unfold runInit
  split
  · next hexists =>
    simp only [Bool.and_eq_true, Bool.not_eq_true'] at hexists
    exact .inr ⟨by simp [hexists, ← Option.isSome_iff_ne_none], _, rfl⟩
  · next hfree =>
    have hfree : settings.text = none ∨ force = true := by
      cases hforce : force <;> simp_all
    by_cases hzero : n = 0
    · refine .inr ⟨by omega, ?_⟩
      rw [Threshold.positive, if_pos hzero]
      exact ⟨_, rfl⟩
    rw [Threshold.positive_eq_ok (by omega)]
    dsimp only
    by_cases hn : n ≤ maxSigned64
    · have hwrite := SettingsFile.write_eq_ok_iff.2 ⟨hn, rfl⟩
      refine .inl ⟨⟨by omega, hn, hfree⟩, ?_⟩
      rw [hwrite]
      exact ⟨_, _, rfl, rfl⟩
    · refine .inr ⟨fun h => hn h.2.1, ?_⟩
      rw [SettingsFile.write, if_neg hn]
      exact ⟨_, rfl⟩

/-- An answer, be it an error or not, leaves the settings file as it is. -/
theorem settings_outcome (settings : SettingsFile) (answer : Answer) :
    (answer.outcome settings).settings = settings.text := by
  cases answer <;> rfl

end Command

/-! ## Runs one after another -/

/-- A start of the program: its arguments, and what it depends on besides the settings file. -/
structure Invocation where
  args : List String
  fileText : String → Except String String
  environment : Option String
  time : String
  manual : Manual

namespace Invocation

/-- What the run depends on, given the settings file that it finds. -/
def surroundings (i : Invocation) (f : SettingsFile) : Surroundings :=
  ⟨i.fileText, i.environment, f, i.time, i.manual⟩

/-- What the run does, given the settings file that it finds. -/
def outcome (i : Invocation) (f : SettingsFile) : Outcome :=
  Command.runArguments (i.surroundings f) i.args

/-- The settings file after the run. -/
def after (f : SettingsFile) (i : Invocation) : SettingsFile :=
  { f with text := (i.outcome f).settings }

/-- The run is an `init` with the threshold `n` that ends well. -/
def Sets (i : Invocation) (f : SettingsFile) (n : Nat) : Prop :=
  ∃ force, Command.parse? i.args = some (.init n force) ∧ (i.outcome f).code = 0

variable {i : Invocation} {f : SettingsFile}

/-- A run whose arguments make a command does what the command does. -/
theorem outcome_eq {c : Command} (h : Command.parse? i.args = some c) :
    i.outcome f = Command.run (i.surroundings f) c := by
  rw [outcome, Command.runArguments, h]

/-- An `init` ends well if its threshold can be used and written, and no file is in its way. -/
theorem code_outcome_eq_zero_iff (h : Command.parse? i.args = some (.init n force)) :
    (i.outcome f).code = 0 ↔ 1 ≤ n ∧ n ≤ maxSigned64 ∧ (f.text = none ∨ force = true) := by
  rw [outcome_eq h, Command.run]
  rcases Command.runInit_cases f n force with ⟨hfits, _, _, -, hok⟩ | ⟨hunfit, _, herror⟩
  · simp only [surroundings, hok, hfits, and_self]
  · simp only [surroundings, herror, hunfit]
    decide

/-- An `init` that ends well has a usable threshold, and leaves the text that sets it. -/
theorem Sets.exists_write (h : i.Sets f n) :
    1 ≤ n ∧ ∃ text, SettingsFile.write n = .ok text ∧ i.after f = ⟨f.path, some text⟩ := by
  obtain ⟨force, hparse, hcode⟩ := h
  have hfits := (code_outcome_eq_zero_iff hparse).1 hcode
  rcases Command.runInit_cases f n force with ⟨-, _, text, hwrite, hok⟩ | ⟨hunfit, -⟩
  · refine ⟨hfits.1, text, hwrite, ?_⟩
    rw [after, outcome_eq hparse, Command.run, surroundings, hok]
  · exact absurd hfits hunfit

/-- **Only an `init` that ends well changes the settings file.** -/
theorem settings_outcome (h : ∀ n, ¬ i.Sets f n) : (i.outcome f).settings = f.text := by
  cases hparse : Command.parse? i.args with
  | none => rw [outcome, Command.runArguments, hparse]; rfl
  | some c =>
    cases c with
    | init n force =>
      have hunfit := fun hfits => h n ⟨force, hparse, (code_outcome_eq_zero_iff hparse).2 hfits⟩
      rcases Command.runInit_cases f n force with ⟨hfits, -⟩ | ⟨-, _, herror⟩
      · exact absurd hfits hunfit
      · rw [outcome_eq hparse, Command.run, surroundings, herror]
    | validate files json flag =>
      rw [outcome_eq hparse]
      exact Command.settings_outcome f _
    | check file term course json flag =>
      rw [outcome_eq hparse]
      exact Command.settings_outcome f _
    | parse text json => rw [outcome_eq hparse]; rfl
    | completions shell => rw [outcome_eq hparse]; rfl
    | help => rw [outcome_eq hparse]; rfl

/-- A run that sets no threshold leaves the settings file as it is. -/
theorem after_eq_self (h : ∀ n, ¬ i.Sets f n) : i.after f = f := by
  rw [after, settings_outcome h]

end Invocation

namespace SettingsFile

/-- The settings file after some runs. -/
def afterAll (f : SettingsFile) (runs : List Invocation) : SettingsFile :=
  runs.foldl (fun f i => i.after f) f

/-- None of the runs sets a threshold. -/
def Undisturbed (f : SettingsFile) : List Invocation → Prop
  | [] => True
  | i :: runs => (∀ n, ¬ i.Sets f n) ∧ Undisturbed (i.after f) runs

variable {f : SettingsFile} {runs : List Invocation}

/-- Runs none of which sets a threshold leave the settings file as it is. -/
theorem Undisturbed.afterAll_eq (h : f.Undisturbed runs) : f.afterAll runs = f := by
  -- each run leaves the file as it is, so that the next one starts with the same
  induction runs with
  | nil => rfl
  | cons i runs ih =>
    have hstep := Invocation.after_eq_self h.1
    rw [afterAll, List.foldl_cons, hstep]
    exact ih (hstep ▸ h.2)

/-- **A threshold that was set counts until the next one is set**, unless a flag or the variable
sets another. -/
theorem resolveThreshold_afterAll {i : Invocation} (hset : i.Sets f n)
    (h : (i.after f).Undisturbed runs) :
    resolveThreshold none none ((i.after f).afterAll runs) = .ok n := by
  obtain ⟨hn, text, hwrite, hafter⟩ := hset.exists_write
  rw [h.afterAll_eq, hafter, resolveThreshold_write hwrite hn]

/-- What some runs leave is what the last ones leave of what the first ones have left. -/
theorem afterAll_append_cons (f : SettingsFile) (before : List Invocation) (i : Invocation)
    (runs : List Invocation) :
    f.afterAll (before ++ i :: runs) = (i.after (f.afterAll before)).afterAll runs := by
  simp only [afterAll, List.foldl_append, List.foldl_cons]

/-- A run in an empty directory, without the variable. -/
def emptyHanded (args : List String) : Invocation :=
  ⟨args, fun _ => .error noSuchFile, none, "now", {}⟩

def initWith (written : String) : Invocation :=
  emptyHanded ["init", "--max-courses-per-term", written]

def noSettings : SettingsFile := ⟨"config.toml", none⟩

end SettingsFile

end CoursePlan
