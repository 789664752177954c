import CoursePlan.Number.Dyadic

/-!
# Binary floating-point numbers

A binary format holds the dyadic fractions that have a limited number of digits, a least unit and
an upper bound.  `Binary f` are the numbers of a format `f`, with signed zeros and infinities and
one value that is not a number.  Numbers from outside are rounded to the nearest number of the
format, and of two equally near ones to that with an even last digit; what would be past the upper
bound is infinite.  All arithmetic here is exact, on natural numbers.
-/

namespace CoursePlan

/-- The extent of a binary format. -/
structure Format where
  /-- How many binary digits a number can have. -/
  precision : Nat
  /-- The exponent of the least unit. -/
  leastExp : Int
  /-- Numbers are below the power of two with this exponent. -/
  bound : Int
deriving DecidableEq

namespace Format

/-- The format of 32 bits. -/
def single : Format := ⟨24, -149, 128⟩

/-- The format of 64 bits. -/
def double : Format := ⟨53, -1074, 1024⟩

/-- Whether a magnitude is one of the format. -/
def holds (f : Format) (d : Dyadic) : Bool :=
  d.mant == 0 || (d.width ≤ f.precision && f.leastExp ≤ d.exp && d.order ≤ f.bound)

theorem holds_zero (f : Format) : f.holds .zero = true := rfl

end Format

/-- The numbers of a binary format. -/
inductive Binary (f : Format) where
  | nan
  | infinite (negative : Bool)
  | finite (negative : Bool) (magnitude : Dyadic) (held : f.holds magnitude = true)
deriving DecidableEq

/-- The numbers of 32 bits. -/
abbrev Single := Binary .single

/-- The numbers of 64 bits. -/
abbrev Double := Binary .double

namespace Binary

variable {f : Format}

/-- Zero with a sign. -/
def zero (negative : Bool) : Binary f :=
  .finite negative .zero f.holds_zero

/-- The quotient of two natural numbers, rounded to the nearest one, half-way cases to even. -/
def divNearest (num den : Nat) : Nat :=
  let q := num / den
  let r := num % den
  if 2 * r < den then q
  else if den < 2 * r then q + 1
  else q + q % 2

/-- A fraction divided by a power of two. -/
def scaleDown (num den : Nat) (exp : Int) : Nat × Nat :=
  if 0 ≤ exp then (num, den * Nat.pow 2 exp.toNat) else (num * Nat.pow 2 (-exp).toNat, den)

/-- The exponent of the greatest power of two that a positive fraction reaches. -/
def floorLog2 (num den : Nat) : Int :=
  let l : Int := num.log2 - den.log2
  let (n, d) := scaleDown num den l
  if d ≤ n then l else l - 1

/-- The number of the format next to a fraction, with a sign. -/
def nearest (f : Format) (negative : Bool) (num den : Nat) : Binary f :=
  if num = 0 then zero negative
  else
    let exp := max f.leastExp (floorLog2 num den + 1 - f.precision)
    let (n, d) := scaleDown num den exp
    let magnitude := Dyadic.ofScaled (divNearest n d) exp
    if h : f.holds magnitude = true then .finite negative magnitude h else .infinite negative

/-- The number of the format next to an integer. -/
def ofInt (f : Format) (n : Int) : Binary f :=
  nearest f (decide (n < 0)) n.natAbs 1

/-- The number of the format next to `coefficient * 10 ^ exp`, with a sign.  Since ten is more than
eight, a number of `k` decimal digits before the point is at least `8 ^ (k - 1)`, which settles
numbers far outside of the format before any power of ten is formed. -/
def ofDecimal (f : Format) (negative : Bool) (coefficient : Nat) (exp : Int) : Binary f :=
  if coefficient = 0 then zero negative
  else
    let digits : Int := (Nat.toDigits 10 coefficient).length + exp
    if f.bound ≤ 3 * (digits - 1) then .infinite negative
    else if 3 * digits < f.leastExp then zero negative
    else if 0 ≤ exp then nearest f negative (coefficient * Nat.pow 10 exp.toNat) 1
    else nearest f negative coefficient (Nat.pow 10 (-exp).toNat)

/-- The number of another format next to a number; a number that is held there stays itself. -/
def convert {f : Format} (g : Format) : Binary f → Binary g
  | .nan => .nan
  | .infinite s => .infinite s
  | .finite s d _ =>
    if h : g.holds d = true then .finite s d h
    else nearest g s d.fraction.1 d.fraction.2

/-- Whether two numbers have the same value: zeros do whatever their signs, and what is not a
number has no value. -/
def sameValue : Binary f → Binary f → Bool
  | .infinite s, .infinite t => s == t
  | .finite s d _, .finite t e _ => d == e && (s == t || d.mant == 0)
  | _, _ => false

/-- Whether this is a number. -/
def isNumber : Binary f → Bool
  | .nan => false
  | _ => true

/-- The place of a magnitude among those of the format, counting from zero.  Numbers with the full
count of digits come in blocks of `2 ^ (precision - 1)` for each exponent of the last digit. -/
def rank (f : Format) (d : Dyadic) : Nat :=
  if d.mant = 0 then 0
  else
    let exp := max f.leastExp (d.order - f.precision)
    (exp - f.leastExp).toNat * Nat.pow 2 (f.precision - 1) +
      d.mant * Nat.pow 2 (d.exp - exp).toNat

/-- The number of magnitudes of the format, which is the place of infinity. -/
def infiniteRank (f : Format) : Nat :=
  (f.bound - f.precision + 2 - f.leastExp).toNat * Nat.pow 2 (f.precision - 1)

/-- The encoding of a number as a word of bits: the sign, then the rank; none for what is not a
number, of which there are many encodings. -/
def bits? : Binary f → Option Nat
  | .nan => none
  | .infinite s => some ((if s then signBit else 0) + infiniteRank f)
  | .finite s d _ => some ((if s then signBit else 0) + rank f d)
where
  /-- The weight of the sign. -/
  signBit : Nat := infiniteRank f + Nat.pow 2 (f.precision - 1)

end Binary

end CoursePlan
