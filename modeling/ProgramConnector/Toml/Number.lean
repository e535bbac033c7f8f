import ProgramConnector.Json.Reader
import ProgramConnector.Settings.Value

/-!
# Words and numbers in TOML

A value that is neither quoted nor a container is one word: a truth value, a whole number of 64 bits
with a sign, or a double. Underscores may stand between digits, and a decimal numeral has no zeros
in front.
-/

namespace ProgramConnector.Toml

/-- Characters of a word. -/
def isWordChar (c : Char) : Bool := c.isAlphanum || c == '_' || c == '+' || c == '-' || c == '.'

/-- Digits without the underscores between them. An underscore has a digit on both sides. -/
def plainDigits? (isDigit : Char → Bool) : List Char → Option (List Char)
  | [] => none
  | [c] => if isDigit c then some [c] else none
  | c :: '_' :: rest => if isDigit c then (plainDigits? isDigit rest).map (c :: ·) else none
  | c :: d :: rest => if isDigit c then (plainDigits? isDigit (d :: rest)).map (c :: ·) else none

/-- Digits without underscores, and without a zero in front of another digit. -/
def decimalDigits? (chars : List Char) : Option (List Char) :=
  (plainDigits? Char.isDigit chars).filter fun digits =>
    !(digits.head? == some '0' && 1 < digits.length)

/-- The value of digits in a base. -/
def valueInBase (base : Nat) (digits : List Char) : Nat :=
  digits.foldl (fun n c => n * base + (Json.hexValue? c).getD 0) 0

/-- A whole number, if 64 bits with a sign hold it. -/
def wholeInRange? (negative : Bool) (magnitude : Nat) : Option SettingValue :=
  (signedWhole? negative magnitude).map SettingValue.whole

/-- A whole number in a base, after the mark of the base. -/
def basedNumber? (base : Nat) (isDigit : Char → Bool) (chars : List Char) : Option SettingValue :=
  (plainDigits? isDigit chars).bind fun digits => wholeInRange? false (valueInBase base digits)

/-- A text cut before the first character that is one of two. -/
def cutBefore (a b : Char) (chars : List Char) : List Char × List Char :=
  (chars.takeWhile fun c => c != a && c != b, chars.dropWhile fun c => c != a && c != b)

/-- The digits behind the point of a double, which may be missing altogether. -/
def places? : List Char → Option (List Char)
  | [] => some []
  | _ :: rest => plainDigits? Char.isDigit rest

/-- The exponent of a double, which may be missing altogether. -/
def power? : List Char → Option Int
  | [] => some 0
  | _ :: rest =>
    let (down, digits) := Extended.signAndRest rest
    (plainDigits? Char.isDigit digits).map fun digits =>
      if down then -Int.ofNat (Extended.digitsValue digits)
      else Int.ofNat (Extended.digitsValue digits)

/-- A double that is written as a numeral; one that is too large is refused. -/
def numeral? (negative : Bool) (chars : List Char) : Option SettingValue := do
  let (mantissa, tail) := cutBefore 'e' 'E' chars
  let (whole, fraction) := cutBefore '.' '.' mantissa
  let whole ← decimalDigits? whole
  let places ← places? fraction
  let digits := whole ++ places
  match Extended.ofDecimal negative (Extended.digitsValue digits) digits.length
      ((← power? tail) - Int.ofNat places.length) with
  | .finite value => return .real (.finite value)
  | _ => none

/-- A number with its sign. -/
def number? (word : List Char) : Option SettingValue :=
  match word with
  | '0' :: 'x' :: rest => basedNumber? 16 (fun c => (Json.hexValue? c).isSome) rest
  | '0' :: 'o' :: rest => basedNumber? 8 (fun c => '0' ≤ c && c ≤ '7') rest
  | '0' :: 'b' :: rest => basedNumber? 2 (fun c => c == '0' || c == '1') rest
  | _ =>
    let (negative, rest) := Extended.signAndRest word
    if rest == ['i', 'n', 'f'] then some (.real (.infinite negative))
    else if rest == ['n', 'a', 'n'] then some (.real .notANumber)
    else if rest.any fun c => c == '.' || c == 'e' || c == 'E' then numeral? negative rest
    else
      (decimalDigits? rest).bind fun digits =>
        wholeInRange? negative (Extended.digitsValue digits)

/-- The value of a word. -/
def word? (word : List Char) : Option SettingValue :=
  if word == ['t', 'r', 'u', 'e'] then some (.flag true)
  else if word == ['f', 'a', 'l', 's', 'e'] then some (.flag false)
  else number? word

end ProgramConnector.Toml
