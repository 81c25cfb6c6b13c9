import Marginalia.Text.Hex
import Marginalia.Toml.Error
import Marginalia.Value.Basic

/-!
# Numbers, dates and times of TOML

Each reader takes the longest text that fits and leaves the rest; a text such as `1_` is read as the
number `1`, and what follows is wrong as the end of its statement.
-/

namespace Marginalia.Toml

/-! ## Numbers -/

/-- Is the character one of the ten digits? -/
def isDigit (c : Char) : Bool := '0' ≤ c && c ≤ '9'

/-- Digits of a kind with single underscores between them: the digits, and the rest. -/
def moreDigits (kind : Char → Bool) : List Char → List Char × List Char
  | '_' :: c :: cs =>
    if kind c then
      let (ds, rest) := moreDigits kind cs
      (c :: ds, rest)
    else ([], '_' :: c :: cs)
  | c :: cs =>
    if kind c then
      let (ds, rest) := moreDigits kind cs
      (c :: ds, rest)
    else ([], c :: cs)
  | [] => ([], [])

/-- One or more digits of a kind with single underscores between them. -/
def digits? (kind : Char → Bool) : List Char → Option (List Char × List Char)
  | c :: cs =>
    if kind c then
      let (ds, rest) := moreDigits kind cs
      some (c :: ds, rest)
    else none
  | [] => none

/-- A whole number in base sixteen, two or eight. -/
def based? : List Char → Option (Value × List Char)
  | '0' :: c :: cs =>
    let read (base : Nat) (kind : Char → Bool) : Option (Value × List Char) :=
      (digits? kind cs).map fun (ds, rest) => (.int (Text.numeral base ds), rest)
    if c = 'x' then read 16 Text.isHexDigit
    else if c = 'b' then read 2 fun d => d == '0' || d == '1'
    else if c = 'o' then read 8 Text.isOctalDigit
    else none
  | _ => none

/-- An optional sign: is it a minus, and the rest. -/
def sign : List Char → Bool × List Char
  | '-' :: cs => (true, cs)
  | '+' :: cs => (false, cs)
  | cs => (false, cs)

/-- The digits of a whole number in base ten, which has no leading zero. -/
def wholePart? : List Char → Option (List Char × List Char)
  | '0' :: cs => some (['0'], cs)
  | cs => digits? isDigit cs

/-- The digits after a point, if there are any. -/
def fraction : List Char → List Char × List Char
  | '.' :: cs => (digits? isDigit cs).getD ([], '.' :: cs)
  | cs => ([], cs)

/-- The exponent, if there is one. -/
def exponent (cs : List Char) : Option Int × List Char :=
  match cs with
  | c :: rest =>
    if c = 'e' || c = 'E' then
      let (negative, ds) := sign rest
      match digits? isDigit ds with
      | some (ds, rest) =>
        let n : Int := Text.numeral 10 ds
        (some (if negative then -n else n), rest)
      | none => (none, cs)
    else (none, cs)
  | [] => (none, cs)

/-- A whole number in base ten. -/
def whole (negative : Bool) (ds : List Char) : Except Error Value :=
  if Text.digitLimit < ds.length then .error (.tooManyDigits ds.length)
  else
    let n : Int := Text.numeral 10 ds
    .ok (.int (if negative then -n else n))

/-- A number in base ten: with a fraction or an exponent it is a binary number, otherwise whole. -/
def decimal? (cs : List Char) : Option (Except Error (Value × List Char)) := do
  let (negative, rest) := sign cs
  let (ds, rest) ← wholePart? rest
  let (part, rest) := fraction rest
  let (power, rest) := exponent rest
  if part.isEmpty && power.isNone then return (whole negative ds).map fun v => (v, rest)
  else
    let power := power.getD 0 - part.length
    return .ok (.float (.ofDecimal negative (Text.numeral 10 (ds ++ part)) power), rest)

/-- A number; only in base ten can it have too many digits. -/
def number? (cs : List Char) : Option (Except Error (Value × List Char)) :=
  ((based? cs).map .ok).or (decimal? cs)

/-- The words for numbers that are not finite. -/
def special? (cs : List Char) : Option (Value × List Char) :=
  let (negative, rest) := sign cs
  match rest with
  | 'i' :: 'n' :: 'f' :: rest => some (.float (.infinite negative), rest)
  | 'n' :: 'a' :: 'n' :: rest => some (.float .nan, rest)
  | _ => none

/-! ## Dates and times -/

/-- A number of exactly the given number of digits. -/
def fixedDigits? (count : Nat) (cs : List Char) : Option (Nat × List Char) :=
  let ds := cs.take count
  if ds.length = count && ds.all isDigit then some (Text.numeral 10 ds, cs.drop count) else none

/-- A number of two digits between two bounds. -/
def twoDigits? (least most : Nat) (cs : List Char) : Option (Nat × List Char) := do
  let (n, rest) ← fixedDigits? 2 cs
  if least ≤ n && n ≤ most then return (n, rest) else none

/-- Steps over one character. -/
def skip? (c : Char) : List Char → Option (List Char)
  | d :: cs => if d = c then some cs else none
  | [] => none

/-- The microseconds of a fraction: its first six digits count. -/
def microseconds (cs : List Char) : Nat × List Char :=
  match cs with
  | '.' :: rest =>
    let ds := rest.takeWhile isDigit
    if ds.isEmpty then (0, cs)
    else
      let six := ds.take 6
      (Text.numeral 10 (six ++ List.replicate (6 - six.length) '0'), rest.dropWhile isDigit)
  | _ => (0, cs)

/-- A time of day. -/
def time? (cs : List Char) : Option (TimeOfDay × List Char) := do
  let (hour, cs) ← twoDigits? 0 23 cs
  let (minute, cs) ← twoDigits? 0 59 (← skip? ':' cs)
  let (second, cs) ← twoDigits? 0 59 (← skip? ':' cs)
  let (microsecond, cs) := microseconds cs
  return ({ hour, minute, second, microsecond }, cs)

/-- The hours and minutes of an offset, in minutes. -/
def offsetMinutes? (cs : List Char) : Option (Int × List Char) := do
  let (hours, cs) ← twoDigits? 0 23 cs
  let (minutes, cs) ← twoDigits? 0 59 (← skip? ':' cs)
  return (hours * 60 + minutes, cs)

/-- An offset from universal time, if there is one. -/
def offset (cs : List Char) : Option Int × List Char :=
  match cs with
  | 'Z' :: rest => (some 0, rest)
  | 'z' :: rest => (some 0, rest)
  | '+' :: rest =>
    match offsetMinutes? rest with
    | some (m, rest) => (some m, rest)
    | none => (none, cs)
  | '-' :: rest =>
    match offsetMinutes? rest with
    | some (m, rest) => (some (-m), rest)
    | none => (none, cs)
  | _ => (none, cs)

/-- A day of the calendar, by the form of its numbers alone. -/
def date? (cs : List Char) : Option (Date × List Char) := do
  let (year, cs) ← fixedDigits? 4 cs
  let (month, cs) ← twoDigits? 1 12 (← skip? '-' cs)
  let (day, cs) ← twoDigits? 1 31 (← skip? '-' cs)
  return ({ year, month, day }, cs)

/-- The time after a day: a letter or a space, then a time of day. -/
def timeAfterDate? : List Char → Option (TimeOfDay × List Char)
  | c :: cs => if c = 'T' || c = 't' || c = ' ' then time? cs else none
  | [] => none

/-- Is the year a leap year? -/
def isLeap (year : Nat) : Bool := year % 4 = 0 && (year % 100 ≠ 0 || year % 400 = 0)

/-- The days of a month. -/
def daysIn (year month : Nat) : Nat :=
  if month = 2 then if isLeap year then 29 else 28
  else if month = 4 || month = 6 || month = 9 || month = 11 then 30
  else 31

/-- Does the calendar have the day? -/
def isCalendarDay (d : Date) : Bool := 1 ≤ d.year && d.day ≤ daysIn d.year d.month

/-- A date, or a date with a time, if the text starts with one; the calendar has to have the day. -/
def dateTime? (cs : List Char) : Option (Except Error (Value × List Char)) := do
  let (d, rest) ← date? cs
  let (value, rest) := match timeAfterDate? rest with
    | some (t, rest) =>
      let (o, rest) := offset rest
      (Value.dateTime { date := d, time := t, offset := o }, rest)
    | none => (Value.date d, rest)
  return if isCalendarDay d then .ok (value, rest) else .error (problemAt cs .invalidDate)

end Marginalia.Toml
