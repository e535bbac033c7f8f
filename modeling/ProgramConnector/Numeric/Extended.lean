import ProgramConnector.Numeric.Shortest

/-!
# Doubles with infinities

All doubles: the finite ones, the two infinities and the value that is no number. Numerals are read
to the nearest double, and one that is too large is infinite.
-/

namespace ProgramConnector

/-- A double. -/
inductive Extended where
  /-- A finite double. -/
  | finite (value : Binary64)
  /-- An infinity. -/
  | infinite (negative : Bool)
  /-- The value that is no number. -/
  | notANumber
deriving DecidableEq

namespace Extended

/-- A double as text, positionally and without an exponent. -/
def plainText : Extended → List Char
  | .finite value => value.plainText
  | .infinite false => ['i', 'n', 'f']
  | .infinite true => ['-', 'i', 'n', 'f']
  | .notANumber => ['N', 'a', 'N']

/-- Whether a double is one of the two zeros. -/
def isZero : Extended → Bool
  | .finite value => value.mantissa == 0
  | .infinite _ => false
  | .notANumber => false

/-- The number of decimal places beyond which every numeral is infinite or zero. -/
def placesLimit : Int := 400

/-- The double nearest to `significand * 10 ^ exponent`, the significand having at most `places`
digits. -/
def ofDecimal (negative : Bool) (significand places : Nat) (exponent : Int) : Extended :=
  if significand == 0 || exponent + places < -placesLimit then
    .finite (Binary64.zero.withSign negative)
  else if placesLimit < exponent + places && placesLimit < exponent then .infinite negative
  else
    match Binary64.nearest significand exponent with
    | some value => .finite (value.withSign negative)
    | none => .infinite negative

/-- A text cut into its sign and what is behind it. -/
def signAndRest : List Char → Bool × List Char
  | '-' :: rest => (true, rest)
  | '+' :: rest => (false, rest)
  | rest => (false, rest)

/-- The value of a list of digits. -/
def digitsValue (digits : List Char) : Nat := digits.foldl (fun n c => n * 10 + (c.toNat - 48)) 0

/-- The exponent of a numeral: nothing at all, or a letter, a sign and digits. -/
def exponent? : List Char → Option Int
  | [] => some 0
  | letter :: rest =>
    let (down, digits) := signAndRest rest
    if !(letter == 'e' || letter == 'E') || digits.isEmpty || !digits.all Char.isDigit then none
    else some (if down then -Int.ofNat (digitsValue digits) else Int.ofNat (digitsValue digits))

/-- The digits behind a point, and what follows them. -/
def fraction : List Char → List Char × List Char
  | '.' :: rest => (rest.takeWhile Char.isDigit, rest.dropWhile Char.isDigit)
  | rest => ([], rest)

/-- The double of a numeral without a sign, which has a digit before or behind its point. -/
def ofNumeral? (negative : Bool) (chars : List Char) : Option Extended :=
  let whole := chars.takeWhile Char.isDigit
  let (places, rest) := fraction (chars.dropWhile Char.isDigit)
  if whole.isEmpty && places.isEmpty then none
  else
    (exponent? rest).map fun exponent =>
      let digits := whole ++ places
      ofDecimal negative (digitsValue digits) digits.length (exponent - Int.ofNat places.length)

/-- The double of a text: a numeral, or the name of an infinity or of the value that is no number,
in upper or lower case. -/
def ofText? (text : List Char) : Option Extended :=
  let (negative, rest) := signAndRest text
  let name := rest.map Char.toLower
  if name == ['i', 'n', 'f'] || name == ['i', 'n', 'f', 'i', 'n', 'i', 't', 'y'] then
    some (.infinite negative)
  else if name == ['n', 'a', 'n'] then some .notANumber
  else ofNumeral? negative rest

end Extended

end ProgramConnector
