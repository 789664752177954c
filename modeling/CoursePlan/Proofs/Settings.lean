import CoursePlan.Proofs.Threshold
import CoursePlan.Proofs.Toml.Reading
import CoursePlan.Settings

/-!
# Settings read back

The settings file that sets a threshold is read as setting that threshold
(`SettingsFile.read?_write`), so that the threshold counts wherever neither a flag nor the variable
sets another (`resolveThreshold_write`).
-/

namespace CoursePlan

open Numeral Toml

variable {n : Nat} {text : String}

namespace SettingsFile

/-- A threshold that fits is written as the document with it, and no other one is. -/
theorem write_eq_ok_iff : write n = .ok text ↔ n ≤ maxSigned64 ∧
    text = "[validation]\nmax_courses_per_term = " ++ Numeral.text n ++ "\n" := by
  unfold write
  split
  · next hn => simp [hn, eq_comm]
  · next hn => simp [hn]

/-- The two keys of a settings file. -/
def sectionKey : List Char :=
  ['v', 'a', 'l', 'i', 'd', 'a', 't', 'i', 'o', 'n']

def thresholdKey : List Char :=
  ['m', 'a', 'x', '_', 'c', 'o', 'u', 'r', 's', 'e', 's', '_', 'p', 'e', 'r', '_', 't', 'e', 'r',
    'm']

/-- The line that sets a threshold. -/
def thresholdLine (n : Nat) : List Char :=
  thresholdKey ++ ' ' :: '=' :: ' ' :: (digits n ++ ['\n'])

theorem isBareKey_sectionKey : IsBareKey sectionKey := by
  decide

theorem isBareKey_thresholdKey : IsBareKey thresholdKey := by
  decide

/-- What is written are two lines, the heading of the section and the threshold. -/
theorem toList_write (h : write n = .ok text) :
    text.toList = '[' :: (sectionKey ++ ']' :: '\n' :: thresholdLine n) := by
  rw [(write_eq_ok_iff.1 h).2]
  simp [Numeral.text, sectionKey, thresholdKey, thresholdLine]

/-- There is no carriage return in what is written. -/
theorem not_mem_toList_write (h : write n = .ok text) : '\r' ∉ text.toList := by
  have hdigits : '\r' ∉ digits n := fun hc => absurd (isDigit_of_mem_digits _ hc) (by decide)
  simp [toList_write h, thresholdLine, sectionKey, thresholdKey, hdigits]

/-- The document of a settings file after its header, and at its end. -/
def opened : Growth := ⟨[("validation", .branch .opened [])], ["validation"]⟩

def complete (n : Nat) : Growth :=
  ⟨[("validation", .branch .opened [("max_courses_per_term", .leaf (.integer n))])],
    ["validation"]⟩

/-- What is written is read as a complete document. -/
theorem growLines?_write (h : write n = .ok text) :
    growLines? .start text.toList = some (complete n) := by
  have hn := (write_eq_ok_iff.1 h).1
  have hheader : growLines? .start text.toList = growLines? opened (thresholdLine n) := by
    have hshorter : (thresholdLine n).length <
        ('[' :: (sectionKey ++ ']' :: '\n' :: thresholdLine n)).length := by
      rw [List.length_cons, List.length_append, List.length_cons, List.length_cons]
      omega
    rw [toList_write h]
    exact growLines?_statement (List.cons_ne_nil _ _) rfl rfl
      (statement?_table isBareKey_sectionKey _) rfl hshorter
  have hline : growLines? opened (thresholdLine n) = growLines? (complete n) [] := by
    have hskip := isBareKey_thresholdKey.skipSpace_append (' ' :: '=' :: ' ' :: (digits n ++ ['\n']))
    exact growLines?_statement (List.cons_ne_nil _ _) hskip rfl
      (statement?_pair isBareKey_thresholdKey hn []) rfl (Nat.succ_pos _)
  rw [hheader, hline, growLines?]
  rfl

/-- **What is written is read back.** -/
theorem read?_write (h : write n = .ok text) : read? text = some n := by
  have hmark : text.toList.head? ≠ some '\ufeff' := by simp [toList_write h]
  have hnatural : Value.natural? (.integer n) = some n := by
    rw [Value.natural?, if_pos (Int.natCast_nonneg n), Int.toNat_natCast]
  rw [read?, Toml.read?_eq hmark (not_mem_toList_write h), growLines?_write h]
  exact hnatural

/-- The threshold that is written is read back. -/
theorem threshold_write (h : write n = .ok text) (path : String) :
    threshold ⟨path, some text⟩ = .ok n := by
  simp [threshold, read?_write h]

end SettingsFile

/-- A threshold that was written counts where nothing else sets one. -/
theorem resolveThreshold_write (h : SettingsFile.write n = .ok text) (hn : 1 ≤ n) (path : String) :
    resolveThreshold none none ⟨path, some text⟩ = .ok n := by
  simp only [resolveThreshold, Threshold.ofVariable, SettingsFile.threshold_write h,
    Threshold.positive_eq_ok hn]
  rfl

end CoursePlan
