/-!
# Dyadic fractions

The magnitudes that binary fractions can have: a natural number times a power of two.  Every such
magnitude has one representation, with an odd number or with zero, so that equal magnitudes are
equal values and no format has to be chosen to hold them.
-/

namespace CoursePlan

/-- The magnitude `mant * 2 ^ exp`. -/
structure Dyadic where
  mant : Nat
  exp : Int
  reduced : mant % 2 = 1 ∨ mant = 0 ∧ exp = 0
deriving DecidableEq

namespace Dyadic

/-- Nothing at all. -/
def zero : Dyadic :=
  ⟨0, 0, .inr ⟨rfl, rfl⟩⟩

/-- The magnitude `mant * 2 ^ exp`, reduced. -/
def ofScaled (mant : Nat) (exp : Int) : Dyadic :=
  if h₀ : mant = 0 then zero
  else if h₁ : mant % 2 = 1 then ⟨mant, exp, .inl h₁⟩
  else ofScaled (mant / 2) (exp + 1)
termination_by mant
decreasing_by omega

/-- The number of binary digits of the odd part. -/
def width (d : Dyadic) : Nat :=
  if d.mant = 0 then 0 else d.mant.log2 + 1

/-- The exponent of the least power of two above the magnitude. -/
def order (d : Dyadic) : Int :=
  d.exp + d.width

/-- The magnitude as a fraction of natural numbers. -/
def fraction (d : Dyadic) : Nat × Nat :=
  if 0 ≤ d.exp then (d.mant * Nat.pow 2 d.exp.toNat, 1) else (d.mant, Nat.pow 2 (-d.exp).toNat)

end Dyadic

end CoursePlan
