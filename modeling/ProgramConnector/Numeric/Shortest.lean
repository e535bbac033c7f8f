import ProgramConnector.Numeric.Binary64

/-!
# Shortest decimal numerals

The fewest decimal digits that read back as a given double, and of those the digits nearest to it.
Digits are tried on grids of one, two, and more digits: on each grid only the two neighbours of the
number can lie in the interval of reals that round to it.
-/

namespace ProgramConnector

/-- The decimal number `digits * 10 ^ exponent`. -/
structure DecimalNumeral where
  /-- The digits, read as a whole number. -/
  digits : Nat
  /-- The power of ten of the last digit. -/
  exponent : Int
deriving DecidableEq

namespace DecimalNumeral

/-- Digits without zeros at the end; the bound limits the number of removed zeros. -/
def dropZeros : Nat → DecimalNumeral → DecimalNumeral
  | 0, x => x
  | n + 1, x =>
    if x.digits != 0 && x.digits % 10 == 0 then dropZeros n ⟨x.digits / 10, x.exponent + 1⟩ else x

/-- The digits as characters. -/
def digitChars (x : DecimalNumeral) : List Char := Nat.toDigits 10 x.digits

/-- The power of ten of the first digit. -/
def leading (x : DecimalNumeral) : Int := x.exponent + x.digitChars.length - 1

/-- Positional notation: a whole number carries `wholeEnding`. -/
def positional (wholeEnding : List Char) (x : DecimalNumeral) : List Char :=
  let chars := x.digitChars
  match x.exponent with
  | .ofNat n => chars ++ List.replicate n '0' ++ wholeEnding
  | .negSucc n =>
    let places := n + 1
    if places < chars.length then
      chars.take (chars.length - places) ++ '.' :: chars.drop (chars.length - places)
    else '0' :: '.' :: List.replicate (places - chars.length) '0' ++ chars

/-- Scientific notation, with a sign before every exponent. -/
def scientific (x : DecimalNumeral) : List Char :=
  let mantissa :=
    match x.digitChars with
    | [] => []
    | [d] => [d]
    | d :: rest => d :: '.' :: rest
  let power :=
    if x.leading < 0 then '-' :: Nat.toDigits 10 x.leading.natAbs
    else '+' :: Nat.toDigits 10 x.leading.natAbs
  mantissa ++ 'e' :: power

end DecimalNumeral

namespace Binary64

/-- Twice the unit of the interval of reals that round to a double, as the numbers of quarter units
of its ends: `low / 4` and `high / 4` units of `2 ^ exponent`. Below a power of two the neighbour is
nearer, so the lower end is too. -/
def interval (x : Binary64) : Nat × Nat :=
  let low := if x.mantissa == leastNormal && x.exponent > minExponent then 1 else 2
  (4 * x.mantissa - low, 4 * x.mantissa + 2)

/-- The power of ten of the first digit of `num / den`, a positive quotient. -/
def leadingPower (num den : Nat) : Int :=
  if num ≥ den then Int.ofNat ((Nat.toDigits 10 (num / den)).length - 1)
  else
    let short : Int :=
      Int.ofNat (Nat.toDigits 10 num).length - Int.ofNat (Nat.toDigits 10 den).length
    if num * Nat.pow 10 short.natAbs ≥ den then short else short - 1

/-- The nearest numeral with its last digit at the power `grid` that rounds to the double, if one
does. -/
def onGrid (x : Binary64) (grid : Int) : Option DecimalNumeral :=
  let (low, high) := x.interval
  let (n, d) := powerOfTwo x.exponent
  let (scaleUp, scaleDown) : Nat × Nat :=
    match grid with
    | .ofNat k => (1, Nat.pow 10 k)
    | .negSucc k => (Nat.pow 10 (k + 1), 1)
  -- One step of the grid is `step` of the units in which a quarter unit of the double is `quarter`.
  let quarter := n * scaleUp
  let step := 4 * d * scaleDown
  let value := 4 * x.mantissa * quarter
  let below := value / step
  let fits (k : Nat) : Bool :=
    let point := k * step
    if x.mantissa % 2 == 0 then low * quarter ≤ point && point ≤ high * quarter
    else low * quarter < point && point < high * quarter
  let gapBelow := value - below * step
  let gapAbove := (below + 1) * step - value
  let chosen :=
    match fits below && below != 0, fits (below + 1) with
    | true, true =>
      if gapBelow < gapAbove then some below
      else if gapAbove < gapBelow then some (below + 1)
      else if below % 2 == 0 then some below else some (below + 1)
    | true, false => some below
    | false, true => some (below + 1)
    | false, false => none
  chosen.map fun k => ⟨k, grid⟩

/-- The shortest numeral of a magnitude. Seventeen digits always suffice. -/
def shortest (x : Binary64) : DecimalNumeral :=
  if x.mantissa == 0 then ⟨0, 0⟩
  else
    let (num, den) := x.quotient
    let power := leadingPower num den
    match (List.range 17).findSome? fun (k : Nat) => x.onGrid (power - Int.ofNat k) with
    | some numeral => numeral.dropZeros 400
    | none => ⟨num / den, 0⟩

/-- How doubles are written inside documents: a zero and every power of ten of the first digit from
`-5` to `15` positionally with at least one digit after the point, all else scientifically. -/
def documentText (x : Binary64) : List Char :=
  let sign := if x.negative then ['-'] else []
  let numeral := x.shortest
  if x.mantissa == 0 then sign ++ ['0', '.', '0']
  else if -5 ≤ numeral.leading && numeral.leading < 16 then
    sign ++ numeral.positional ['.', '0']
  else sign ++ numeral.scientific

/-- How doubles are written where a text is expected: positionally, whole numbers without a point.
-/
def plainText (x : Binary64) : List Char :=
  let sign := if x.negative then ['-'] else []
  sign ++ x.shortest.positional []

end Binary64

end ProgramConnector
