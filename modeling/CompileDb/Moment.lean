/-!
# Dates and times

A moment is a date, a time of the day, or both, the last perhaps with its distance from universal
time. `Moment.text` writes it with a blank between date and time, `Moment.inspect` as the call that
would make it.
-/

namespace CompileDb

/-- A day of the calendar. -/
structure Date where
  year : Nat
  month : Nat
  day : Nat
  deriving DecidableEq

/-- A time of the day. -/
structure TimeOfDay where
  hour : Nat
  minute : Nat
  second : Nat
  microsecond : Nat := 0
  deriving DecidableEq

/-- A date or a time. -/
inductive Moment where
  | date (date : Date)
  | time (time : TimeOfDay)
  /-- A date and a time; `offset` counts the minutes that its clock is ahead of universal time. -/
  | both (date : Date) (time : TimeOfDay) (offset : Option Int)
  deriving DecidableEq

/-- A whole number with at least `width` digits. -/
def paddedNumber (width n : Nat) : String :=
  let digits := toString n
  "".pushn '0' (width - digits.length) ++ digits

namespace Date

def daysIn (year month : Nat) : Nat :=
  if month = 2 then
    if year % 4 = 0 ∧ (year % 100 ≠ 0 ∨ year % 400 = 0) then 29 else 28
  else if month = 4 ∨ month = 6 ∨ month = 9 ∨ month = 11 then 30
  else 31

def isValid (d : Date) : Bool :=
  decide (1 ≤ d.year) && decide (1 ≤ d.month) && decide (d.month ≤ 12) && decide (1 ≤ d.day) &&
    decide (d.day ≤ daysIn d.year d.month)

def text (d : Date) : String :=
  paddedNumber 4 d.year ++ "-" ++ paddedNumber 2 d.month ++ "-" ++ paddedNumber 2 d.day

def numbers (d : Date) : List Nat := [d.year, d.month, d.day]

end Date

namespace TimeOfDay

def isValid (t : TimeOfDay) : Bool :=
  decide (t.hour < 24) && decide (t.minute < 60) && decide (t.second < 60)

def text (t : TimeOfDay) : String :=
  paddedNumber 2 t.hour ++ ":" ++ paddedNumber 2 t.minute ++ ":" ++ paddedNumber 2 t.second ++
    if t.microsecond = 0 then "" else "." ++ paddedNumber 6 t.microsecond

def numbers (t : TimeOfDay) : List Nat :=
  [t.hour, t.minute] ++
    if t.microsecond ≠ 0 then [t.second, t.microsecond] else if t.second ≠ 0 then [t.second] else []

end TimeOfDay

namespace Moment

/-- The text of a distance from universal time. -/
def offsetText (minutes : Int) : String :=
  (if minutes < 0 then "-" else "+") ++ paddedNumber 2 (minutes.natAbs / 60) ++ ":" ++
    paddedNumber 2 (minutes.natAbs % 60)

def text : Moment → String
  | date d => d.text
  | time t => t.text
  | both d t offset => d.text ++ " " ++ t.text ++ (offset.map offsetText).getD ""

def call (name : String) (numbers : List Nat) : String :=
  name ++ "(" ++ ", ".intercalate (numbers.map toString) ++ ")"

/-- The call that makes a moment. -/
def inspect : Moment → String
  | date d => call "datetime.date" d.numbers
  | time t => call "datetime.time" t.numbers
  | both d t _ => call "datetime.datetime" (d.numbers ++ t.numbers)

end Moment

end CompileDb
