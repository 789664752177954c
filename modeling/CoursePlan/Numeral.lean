/-!
# Numerals

Reading and writing natural numbers, in decimal and, where ids and escapes need it, in hexadecimal.
Numbers that users write have to fit a word: a year and a half together 32 bits, a threshold 64.
-/

namespace CoursePlan.Numeral

/-- The decimal digits of `n`, most significant first and without leading zeros. -/
def digits (n : Nat) : List Char :=
  Nat.toDigits 10 n

/-- The decimal text of `n`. -/
def text (n : Nat) : String :=
  String.ofList (digits n)

/-- The number that one or more decimal digits spell; leading zeros are allowed. -/
def nat? (cs : List Char) : Option Nat :=
  if cs.isEmpty || !cs.all Char.isDigit then none else some (Nat.ofDigitChars 10 cs 0)

/-- The value of a hexadecimal digit, in either case. -/
def hexDigit? (c : Char) : Option Nat :=
  if c.isDigit then some (c.toNat - '0'.toNat)
  else if 'a' ≤ c ∧ c ≤ 'f' then some (c.toNat - 'a'.toNat + 10)
  else if 'A' ≤ c ∧ c ≤ 'F' then some (c.toNat - 'A'.toNat + 10)
  else none

/-- The number that hexadecimal digits spell. -/
def hex? (cs : List Char) : Option Nat :=
  cs.foldlM (fun n c => (hexDigit? c).map (16 * n + ·)) 0

/-- The number that digits spell in a base of at most sixteen. -/
def ofDigits (base : Nat) (cs : List Char) : Nat :=
  cs.foldl (fun n c => base * n + (hexDigit? c).getD 0) 0

/-- The largest number of 32 bits. -/
def max32 : Nat := 0xffffffff

/-- The largest number of 64 bits. -/
def max64 : Nat := 0xffffffffffffffff

/-- The largest number of 64 bits of which one is a sign. -/
def maxSigned64 : Nat := 0x7fffffffffffffff

/-- A whole number of at most 64 bits as users write it: perhaps one plus sign, then digits. -/
def word64? (cs : List Char) : Option Nat := do
  let unsigned := match cs with
    | '+' :: rest => rest
    | _ => cs
  let n ← nat? unsigned
  if n ≤ max64 then some n else none

end CoursePlan.Numeral
