/-!
# Dates and times

A day of the calendar, a time of day, and a day with a time, which may tell how far its clock is from
the reference clock.
-/
namespace CodeTwins.Toml

/-- A day. -/
structure Day where
  year : Nat
  month : Nat
  day : Nat
deriving DecidableEq, Repr

/-- A time of day. -/
structure Clock where
  hour : Nat
  minute : Nat
  second : Nat
  micros : Nat
deriving DecidableEq, Repr

/-- A date or a time. The offset is in minutes. -/
inductive Moment where
  | day (d : Day)
  | clock (c : Clock)
  | both (d : Day) (c : Clock) (offset : Option Int)
deriving DecidableEq, Repr

/-- A number with zeros before it up to a width. -/
def padded (width n : Nat) : String :=
  let digits := Nat.toDigits 10 n
  String.ofList (List.replicate (width - digits.length) '0' ++ digits)

def isLeapYear (year : Nat) : Bool :=
  (year % 4 = 0 && year % 100 ≠ 0) || year % 400 = 0

namespace Day

def daysIn (year month : Nat) : Nat :=
  if month = 2 then (if isLeapYear year then 29 else 28)
  else if [4, 6, 9, 11].contains month then 30
  else 31

def isReal (d : Day) : Bool :=
  0 < d.year && 0 < d.month && d.month ≤ 12 && 0 < d.day && d.day ≤ daysIn d.year d.month

def text (d : Day) : String :=
  padded 4 d.year ++ "-" ++ padded 2 d.month ++ "-" ++ padded 2 d.day

end Day

namespace Clock

def text (c : Clock) : String :=
  padded 2 c.hour ++ ":" ++ padded 2 c.minute ++ ":" ++ padded 2 c.second ++
    (if c.micros = 0 then "" else "." ++ padded 6 c.micros)

/-- The parts of the time, those left out that are zero at the end. -/
def parts (c : Clock) : List Nat :=
  if c.micros ≠ 0 then [c.hour, c.minute, c.second, c.micros]
  else if c.second ≠ 0 then [c.hour, c.minute, c.second]
  else [c.hour, c.minute]

end Clock

def offsetText (minutes : Int) : String :=
  (if minutes < 0 then "-" else "+") ++ padded 2 (minutes.natAbs / 60) ++ ":" ++
    padded 2 (minutes.natAbs % 60)

def offsetShown (minutes : Int) : String :=
  if minutes = 0 then "datetime.timezone.utc"
  else
    let span :=
      if minutes < 0 then "days=-1, seconds=" ++ toString (86400 + minutes * 60)
      else "seconds=" ++ toString (minutes * 60)
    "datetime.timezone(datetime.timedelta(" ++ span ++ "))"

def listed (ns : List Nat) : String :=
  String.intercalate ", " (ns.map toString)

namespace Moment

def kind : Moment → String
  | day _ => "datetime.date"
  | clock _ => "datetime.time"
  | both _ _ _ => "datetime.datetime"

def text : Moment → String
  | day d => d.text
  | clock c => c.text
  | both d c offset => d.text ++ " " ++ c.text ++ (offset.map offsetText).getD ""

def shown : Moment → String
  | day d => "datetime.date(" ++ listed [d.year, d.month, d.day] ++ ")"
  | clock c => "datetime.time(" ++ listed c.parts ++ ")"
  | both d c offset =>
    "datetime.datetime(" ++ listed ([d.year, d.month, d.day] ++ c.parts) ++
      (offset.map fun o => ", tzinfo=" ++ offsetShown o).getD "" ++ ")"

end Moment
end CodeTwins.Toml
