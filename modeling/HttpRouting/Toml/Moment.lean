/-
Dates and times of TOML.

* `Date`, `TimeOfDay`, `Offset`: a day of the Gregorian calendar, a time of day, and a distance
  from universal time;
* `Moment`: a date, a time, or both with or without an offset;
* `Moment.ofText?`: the moment that a text spells;
* `Moment.render`: the usual spelling of a moment.

A time of day has seconds and at most nine digits of a fraction, whatever its spelling gave.
-/
import HttpRouting.Text.Digit

namespace HttpRouting.Toml

/-! ### Two digits -/

/-- The number that exactly two digits spell. -/
def twoDigits? : List Char → Option Nat
  | [a, b] => if Text.isDigitOf 10 a && Text.isDigitOf 10 b then some (Text.numberOf 10 [a, b]) else none
  | _ => none

/-- The number that exactly two digits spell, if it is below a bound. -/
def twoDigitsBelow? (bound : Nat) (cs : List Char) : Option Nat :=
  (twoDigits? cs).filter (· < bound)

/-- Two digits of a number below a hundred. -/
def twoDigits (n : Nat) : String :=
  if n < 10 then "0" ++ toString n else toString n

/-! ### Dates -/

/-- Whether a year has a leap day. -/
def isLeapYear (year : Nat) : Bool :=
  year % 4 == 0 && (year % 100 != 0 || year % 400 == 0)

/-- The number of days of a month. -/
def daysOfMonth (year month : Nat) : Nat :=
  if month = 2 then (if isLeapYear year then 29 else 28)
  else if [4, 6, 9, 11].contains month then 30
  else 31

/-- A day of the calendar. -/
structure Date where
  year : Nat
  month : Nat
  day : Nat
deriving DecidableEq, Repr

namespace Date

/-- Whether the calendar has the day. -/
def isValid (d : Date) : Bool :=
  1 ≤ d.month && d.month ≤ 12 && 1 ≤ d.day && d.day ≤ daysOfMonth d.year d.month

/-- The date that a text spells, as in `1979-05-27`. -/
def ofText? : List Char → Option Date
  | [a, b, c, d, '-', e, f, '-', g, h] => do
    let date : Date := ⟨100 * (← twoDigits? [a, b]) + (← twoDigits? [c, d]), ← twoDigits? [e, f],
      ← twoDigits? [g, h]⟩
    guard date.isValid
    return date
  | _ => none

/-- The spelling of a date. -/
def render (d : Date) : String :=
  twoDigits (d.year / 100) ++ twoDigits (d.year % 100) ++ "-" ++ twoDigits d.month ++ "-" ++
    twoDigits d.day

end Date

/-! ### Times of day -/

/-- A time of day. A minute may have a leap second. -/
structure TimeOfDay where
  hour : Nat
  minute : Nat
  second : Nat := 0
  /-- The digits after the point, of which the last is not zero. -/
  fraction : List Char := []
deriving DecidableEq, Repr

namespace TimeOfDay

/-- The first nine digits of a fraction, without the zeros at their end. -/
def significant (digits : List Char) : List Char :=
  ((digits.take 9).reverse.dropWhile (· == '0')).reverse

/-- The time of day that a text spells, as in `07:32`, `07:32:00` or `07:32:00.25`. -/
def ofText? : List Char → Option TimeOfDay
  | a :: b :: ':' :: c :: d :: rest => do
    let hour ← twoDigitsBelow? 24 [a, b]
    let minute ← twoDigitsBelow? 60 [c, d]
    match rest with
    | [] => some { hour, minute }
    | [':', e, f] => some { hour, minute, second := ← twoDigitsBelow? 61 [e, f] }
    | ':' :: e :: f :: '.' :: digits =>
      let second ← twoDigitsBelow? 61 [e, f]
      guard (!digits.isEmpty && digits.all (Text.isDigitOf 10))
      some { hour, minute, second, fraction := significant digits }
    | _ => none
  | _ => none

/-- The spelling of a time of day. -/
def render (t : TimeOfDay) : String :=
  twoDigits t.hour ++ ":" ++ twoDigits t.minute ++ ":" ++ twoDigits t.second ++
    if t.fraction.isEmpty then "" else "." ++ String.ofList t.fraction

end TimeOfDay

/-! ### Offsets -/

/-- A distance from universal time in minutes. Universal time itself has a letter too. -/
inductive Offset where
  | universal
  | minutes (n : Int)
deriving DecidableEq, Repr

namespace Offset

/-- The number of minutes that hours and minutes spell, as in `07:00`. -/
def minutes? : List Char → Option Nat
  | [a, b, ':', c, d] => do
    return 60 * (← twoDigitsBelow? 24 [a, b]) + (← twoDigitsBelow? 60 [c, d])
  | _ => none

/-- The offset that a text spells, as in `Z` or `-07:00`. -/
def ofText? : List Char → Option Offset
  | ['Z'] => some universal
  | '+' :: cs => (minutes? cs).map fun n => minutes n
  | '-' :: cs => (minutes? cs).map fun n => minutes (-n)
  | _ => none

/-- The spelling of an offset. -/
def render : Offset → String
  | universal => "Z"
  | minutes n =>
    (if n < 0 then "-" else "+") ++ twoDigits (n.natAbs / 60) ++ ":" ++ twoDigits (n.natAbs % 60)

end Offset

/-! ### Moments -/

/-- A date, a time of day, or both. -/
inductive Moment where
  | date (d : Date)
  | time (t : TimeOfDay)
  | both (d : Date) (t : TimeOfDay) (offset : Option Offset)
deriving DecidableEq, Repr

namespace Moment

/-- A time of day with at most an offset. -/
def timeAndOffset? (cs : List Char) : Option (TimeOfDay × Option Offset) := do
  let time := cs.takeWhile fun c => c != 'Z' && c != '+' && c != '-'
  let t ← TimeOfDay.ofText? time
  match cs.drop time.length with
  | [] => some (t, none)
  | offset => (Offset.ofText? offset).map fun o => (t, some o)

/-- A date and a time of day with at most an offset, between them a letter. -/
def both? (cs : List Char) : Option Moment := do
  let d ← Date.ofText? (cs.take 10)
  match cs.drop 10 with
  | 'T' :: cs => (timeAndOffset? cs).map fun (t, offset) => both d t offset
  | _ => none

/-- The moment that a text spells. A small letter or a blank serves as well as the letter. -/
def ofText? (cs : List Char) : Option Moment :=
  let spelled := cs.map fun c => if c == 't' || c == ' ' then 'T' else if c == 'z' then 'Z' else c
  ((Date.ofText? spelled).map date).or (((TimeOfDay.ofText? spelled).map time).or (both? spelled))

/-- The usual spelling of a moment. -/
def render : Moment → String
  | date d => d.render
  | time t => t.render
  | both d t offset => d.render ++ "T" ++ t.render ++ (offset.map Offset.render).getD ""

end Moment

end HttpRouting.Toml
