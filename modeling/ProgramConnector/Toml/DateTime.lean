import ProgramConnector.Numeric.Extended

/-!
# Dates and times in TOML

A date, a time of day, or a date with a time and perhaps an offset. A setting takes such a value as
text, in the one form in which it is printed: a `T` before the time, a capital `Z`, and at most nine
digits of a second without zeros at their end.
-/

namespace ProgramConnector.Toml

/-- A number of `count` digits between two bounds, and the characters behind it. -/
def numberBetween? (count least greatest : Nat) (chars : List Char) :
    Option (List Char × List Char) :=
  let digits := chars.take count
  let value := Extended.digitsValue digits
  if digits.length == count && digits.all Char.isDigit && least ≤ value && value ≤ greatest then
    some (digits, chars.drop count)
  else none

/-- A number of two digits between two bounds behind a mark, which stays in front of it. -/
def markedNumber? (mark : Char) (least greatest : Nat) : List Char → Option (List Char × List Char)
  | [] => none
  | c :: rest =>
    if c == mark then
      (numberBetween? 2 least greatest rest).map fun (digits, rest) => (mark :: digits, rest)
    else none

/-- The number of days of a month. -/
def daysOfMonth (year month : Nat) : Nat :=
  if month == 2 then if year % 4 == 0 && (year % 100 != 0 || year % 400 == 0) then 29 else 28
  else if [4, 6, 9, 11].contains month then 30
  else 31

/-- A date. -/
def date? (chars : List Char) : Option (List Char × List Char) := do
  let (year, rest) ← numberBetween? 4 0 9999 chars
  let (month, rest) ← markedNumber? '-' 1 12 rest
  let days := daysOfMonth (Extended.digitsValue year) (Extended.digitsValue (month.drop 1))
  let (day, rest) ← markedNumber? '-' 1 days rest
  return (year ++ month ++ day, rest)

/-- The greatest number of digits of a part of a second. -/
def secondPlaces : Nat := 9

/-- A part of a second, which may be missing. -/
def secondPart (chars : List Char) : List Char × List Char :=
  match chars with
  | '.' :: rest =>
    let digits := rest.takeWhile Char.isDigit
    let kept := ((digits.take secondPlaces).reverse.dropWhile (· == '0')).reverse
    if digits.isEmpty then ([], chars)
    else (if kept.isEmpty then [] else '.' :: kept, rest.drop digits.length)
  | _ => ([], chars)

/-- A time of day, which may have a leap second. -/
def time? (chars : List Char) : Option (List Char × List Char) := do
  let (hour, rest) ← numberBetween? 2 0 23 chars
  let (minute, rest) ← markedNumber? ':' 0 59 rest
  let (second, rest) ← markedNumber? ':' 0 60 rest
  let (part, rest) := secondPart rest
  return (hour ++ minute ++ second ++ part, rest)

/-- An offset, which may be missing. None of them is negative and zero. -/
def offset? : List Char → Option (List Char × List Char)
  | [] => some ([], [])
  | c :: rest =>
    if c == 'Z' || c == 'z' then some (['Z'], rest)
    else if c == '+' || c == '-' then do
      let (hour, rest) ← numberBetween? 2 0 23 rest
      let (minute, rest) ← markedNumber? ':' 0 59 rest
      let sign := if hour ++ minute == "00:00".toList then '+' else c
      return (sign :: (hour ++ minute), rest)
    else some ([], c :: rest)

/-- Whether a character may stand between a date and a time. -/
def isTimeMark (c : Char) : Bool := c == 'T' || c == 't' || c == ' '

/-- A date, a time, or both. A date that is followed by anything else is a date alone. -/
def dateTime? (chars : List Char) : Option (List Char × List Char) :=
  match date? chars with
  | none => time? chars
  | some (date, behind) =>
    match (behind.head?.filter isTimeMark).bind fun _ => time? (behind.drop 1) with
    | none => some (date, behind)
    | some (time, rest) =>
      (offset? rest).map fun (offset, rest) => (date ++ 'T' :: time ++ offset, rest)

example : (dateTime? "1979-05-27 07:32:00.5000z # a comment".toList).map Prod.fst =
    some "1979-05-27T07:32:00.5Z".toList := by decide

end ProgramConnector.Toml
