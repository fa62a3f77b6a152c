namespace VisitorHeader

/-- A double precision number; `finite s m q` stands for `m * 2 ^ q` with the sign `s`, where
`m < 2 ^ 53`, and `2 ^ 52 ≤ m` unless `q` is the least exponent. -/
inductive Binary64 where
  | nan
  | infinite (negative : Bool)
  | finite (negative : Bool) (mantissa : Nat) (exponent : Int)
deriving DecidableEq

namespace Binary64

def leastExponent : Int := -1074

def greatestExponent : Int := 971

def zero (negative : Bool) : Binary64 := .finite negative 0 leastExponent

def roundDiv (num den : Nat) : Nat :=
  let twice := 2 * (num % den)
  if den < twice || (twice == den && num / den % 2 == 1) then num / den + 1 else num / den

def exponentOf (num den : Nat) : Int :=
  let low : Int := (num.log2 : Int) - den.log2 - 53
  let fits := num * Nat.pow 2 (-low).toNat < Nat.pow 2 53 * (den * Nat.pow 2 low.toNat)
  max leastExponent (if fits then low else low + 1)

def ofRatio (negative : Bool) (num den : Nat) : Binary64 :=
  let q := exponentOf num den
  let m := roundDiv (num * Nat.pow 2 (-q).toNat) (den * Nat.pow 2 q.toNat)
  let (m, q) := if m == Nat.pow 2 53 then (Nat.pow 2 52, q + 1) else (m, q)
  if greatestExponent < q then .infinite negative else .finite negative m q

/-- The number nearest to `digits * 10 ^ exponent`. Exponents far outside the range are answered
without the power of ten. -/
def ofDecimal (negative : Bool) (digits : Nat) (exponent : Int) : Binary64 :=
  let places : Int := exponent + (Nat.toDigits 10 digits).length
  if digits = 0 ∨ places < -400 then zero negative
  else if 400 < places then .infinite negative
  else ofRatio negative (digits * Nat.pow 10 exponent.toNat) (Nat.pow 10 (-exponent).toNat)

end Binary64

end VisitorHeader
