/-!
# Dates and times of a configuration

A configuration may hold dates, times of day, and both together with or without an offset from
universal time.  They are carried along and written in two ways: in the standard's notation, and as
the expression that diagnostics show.
-/

namespace Marginalia

/-- A day of the calendar. -/
structure Date where
  year : Nat
  month : Nat
  day : Nat
deriving DecidableEq, Repr

/-- A time of day. -/
structure TimeOfDay where
  hour : Nat
  minute : Nat
  second : Nat := 0
  microsecond : Nat := 0
deriving DecidableEq, Repr

/-- A day and a time of it, with an offset from universal time in minutes if one is given. -/
structure DateTime where
  date : Date
  time : TimeOfDay
  offset : Option Int := none
deriving DecidableEq, Repr

/-- A number with zeros in front up to the given number of digits. -/
def padded (digits n : Nat) : String :=
  let ds := Nat.toDigits 10 n
  String.ofList (List.replicate (digits - ds.length) '0' ++ ds)

namespace Date

/-- The day as year, month and day with hyphens. -/
def standard (d : Date) : String :=
  padded 4 d.year ++ "-" ++ padded 2 d.month ++ "-" ++ padded 2 d.day

/-- The numbers of the day with commas. -/
def fields (d : Date) : String := s!"{d.year}, {d.month}, {d.day}"

/-- The expression for the day. -/
def expression (d : Date) : String := "datetime.date(" ++ d.fields ++ ")"

end Date

namespace TimeOfDay

/-- The time with colons; a fraction of a second is written with six digits, if there is one. -/
def standard (t : TimeOfDay) : String :=
  padded 2 t.hour ++ ":" ++ padded 2 t.minute ++ ":" ++ padded 2 t.second ++
    if t.microsecond = 0 then "" else "." ++ padded 6 t.microsecond

/-- The numbers of the time with commas, without zeros at the end beyond the minute. -/
def fields (t : TimeOfDay) : String :=
  s!"{t.hour}, {t.minute}" ++
    if t.microsecond ≠ 0 then s!", {t.second}, {t.microsecond}"
    else if t.second ≠ 0 then s!", {t.second}" else ""

/-- The expression for the time. -/
def expression (t : TimeOfDay) : String := "datetime.time(" ++ t.fields ++ ")"

end TimeOfDay

/-- An offset in hours and minutes with its sign. -/
def offsetText (minutes : Int) : String :=
  (if minutes < 0 then "-" else "+") ++ padded 2 (minutes.natAbs / 60) ++ ":" ++
    padded 2 (minutes.natAbs % 60)

/-- The expression for an offset: the seconds of the day, and the day before for a negative one. -/
def offsetExpression (minutes : Int) : String :=
  if minutes = 0 then "datetime.timezone.utc"
  else if minutes < 0 then
    "datetime.timezone(datetime.timedelta(days=-1, seconds=" ++
      toString (86400 + 60 * minutes) ++ "))"
  else "datetime.timezone(datetime.timedelta(seconds=" ++ toString (60 * minutes) ++ "))"

namespace DateTime

/-- Day, separator, time and offset. -/
def written (t : DateTime) (separator : String) : String :=
  t.date.standard ++ separator ++ t.time.standard ++ (t.offset.map offsetText).getD ""

/-- The standard's notation. -/
def standard (t : DateTime) : String := t.written "T"

/-- The expression for the day and the time. -/
def expression (t : DateTime) : String :=
  "datetime.datetime(" ++ t.date.fields ++ ", " ++ t.time.fields ++
    (match t.offset with
      | some m => ", tzinfo=" ++ offsetExpression m
      | none => "") ++ ")"

end DateTime

end Marginalia
