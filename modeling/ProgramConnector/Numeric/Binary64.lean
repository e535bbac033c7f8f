/-!
# Whole numbers and doubles of 64 bits

The limits of the whole numbers that 64 bits hold, without and with a sign.

Finite doubles as a sign, a whole mantissa and a power of two, with rounding in exact arithmetic.
Quotients of natural numbers are rounded to the nearest double, a tie to the even mantissa. A
decimal numeral is read as digits of at most 64 bits that are then scaled by a power of ten, and
each of the two steps rounds; this decides the last bit of numerals with many digits.
-/

namespace ProgramConnector

/-- One more than the greatest whole number of 64 bits. -/
def wordLimit : Nat := 0x10000000000000000

/-- One more than the greatest whole number of 64 bits with a sign. The least one is its negative. -/
def signedLimit : Nat := 0x8000000000000000

/-- The whole number with a sign and a magnitude, if 64 bits hold it. -/
def signedWhole? (negative : Bool) (magnitude : Nat) : Option Int :=
  if negative then if magnitude ≤ signedLimit then some (-Int.ofNat magnitude) else none
  else if magnitude < signedLimit then some (Int.ofNat magnitude) else none

/-- Whether 64 bits with a sign hold a whole number. -/
def isSignedWhole (value : Int) : Bool := (signedWhole? (value < 0) value.natAbs).isSome

/-- The finite double `mantissa * 2 ^ exponent`, negated when `negative`. The mantissa has 53 bits,
or fewer at the least exponent `-1074`. -/
structure Binary64 where
  /-- Whether the sign bit is set; zero has two signs. -/
  negative : Bool
  /-- The whole number of units. -/
  mantissa : Nat
  /-- The unit's power of two. -/
  exponent : Int
deriving DecidableEq

namespace Binary64

/-- The least exponent of a double. -/
def minExponent : Int := -1074

/-- The greatest exponent of a double. -/
def maxExponent : Int := 971

/-- The least mantissa of 53 bits. -/
def leastNormal : Nat := 0x10000000000000

/-- Zero. -/
def zero : Binary64 := ⟨false, 0, minExponent⟩

/-- The power `2 ^ e` as a quotient of natural numbers. -/
def powerOfTwo (e : Int) : Nat × Nat :=
  match e with
  | .ofNat n => (Nat.pow 2 n, 1)
  | .negSucc n => (1, Nat.pow 2 (n + 1))

/-- The quotient `num / den` rounded to a whole number, a tie going to the even one. -/
def roundQuotient (num den : Nat) : Nat :=
  let q := num / den
  let r := num % den
  if 2 * r > den || (2 * r == den && q % 2 == 1) then q + 1 else q

/-- The exponent at which `num / den` has a mantissa of 53 bits, or the least exponent. -/
def exponentFor (num den : Nat) : Int :=
  let low : Int := Int.ofNat num.log2 - Int.ofNat den.log2 - 53
  let (n, d) := powerOfTwo (low + 53)
  let exact := if num * d ≥ den * n then low + 1 else low
  max exact minExponent

/-- The double nearest to `num / den`, or nothing when it would be too large. -/
def ofQuotient (num den : Nat) : Option Binary64 :=
  if num == 0 then some zero
  else
    let e := exponentFor num den
    let (n, d) := powerOfTwo e
    let m := roundQuotient (num * d) (den * n)
    let (m, e) := if m == 2 * leastNormal then (leastNormal, e + 1) else (m, e)
    if e > maxExponent then none else some ⟨false, m, e⟩

/-- The magnitude as a quotient of natural numbers. -/
def quotient (x : Binary64) : Nat × Nat :=
  let (n, d) := powerOfTwo x.exponent
  (x.mantissa * n, d)

/-- Product of two magnitudes. -/
def times (x y : Binary64) : Option Binary64 :=
  let (a, b) := x.quotient
  let (c, d) := y.quotient
  ofQuotient (a * c) (b * d)

/-- Quotient of two magnitudes. -/
def dividedBy (x y : Binary64) : Option Binary64 :=
  let (a, b) := x.quotient
  let (c, d) := y.quotient
  ofQuotient (a * d) (b * c)

/-- The double nearest to a power of ten. -/
def powerOfTen (n : Nat) : Option Binary64 := ofQuotient (Nat.pow 10 n) 1

/-- The same magnitude with the given sign. -/
def withSign (negative : Bool) (x : Binary64) : Binary64 := ⟨negative, x.mantissa, x.exponent⟩

/-- Equality as numbers: the two zeros are equal. -/
def same (x y : Binary64) : Bool :=
  (x.mantissa == 0 && y.mantissa == 0) || x == y

/-- The number `significand * 10 ^ exponent` in two roundings, first of the significand and then of
its product or quotient with a power of ten; below `10 ^ -308` the division goes in two steps. -/
def scaled (significand : Nat) (exponent : Int) : Option Binary64 := do
  let x ← ofQuotient significand 1
  match exponent with
  | .ofNat n =>
    if n ≤ 308 then x.times (← powerOfTen n)
    else if x.mantissa == 0 then some x
    else none
  | .negSucc n =>
    if n + 1 ≤ 308 then x.dividedBy (← powerOfTen (n + 1))
    else if n + 1 ≤ 616 then
      (← x.dividedBy (← powerOfTen 308)).dividedBy (← powerOfTen (n + 1 - 308))
    else some zero

/-- The number `significand * 10 ^ exponent` in one rounding. -/
def nearest (significand : Nat) (exponent : Int) : Option Binary64 :=
  match exponent with
  | .ofNat n =>
    if significand == 0 then some zero
    else if n > 400 then none
    else ofQuotient (significand * Nat.pow 10 n) 1
  | .negSucc n => ofQuotient significand (Nat.pow 10 (n + 1))

end Binary64

end ProgramConnector
