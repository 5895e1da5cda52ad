import ContractAudit.Number.Notation

/-!
# Dates and points in time

Dates of the Gregorian calendar in the years 1 to 9999, and points in time on them. A point in time may know by how much
the clocks of its place are ahead of universal time; only points that know it can be compared across places.
-/

namespace ContractAudit

structure Date where
  year : Nat
  month : Nat
  day : Nat
deriving DecidableEq, Repr, Inhabited

namespace Date

def isLeapYear (year : Nat) : Bool := year % 4 = 0 && (year % 100 != 0 || year % 400 = 0)

def daysInMonth (year month : Nat) : Nat :=
  if month = 2 then (if isLeapYear year then 29 else 28)
  else if month = 4 ∨ month = 6 ∨ month = 9 ∨ month = 11 then 30
  else 31

/-- The date with the given numbers, if the calendar has it. -/
def make? (year month day : Nat) : Option Date :=
  if 1 ≤ year ∧ year ≤ 9999 ∧ 1 ≤ month ∧ month ≤ 12 ∧ 1 ≤ day ∧ day ≤ daysInMonth year month then
    some ⟨year, month, day⟩
  else none

/-- Days from the first day of the year 1 to the first day of a year. -/
def daysBeforeYear (year : Nat) : Nat :=
  let past := year - 1
  365 * past + past / 4 - past / 100 + past / 400

/-- Days since the first day of the year 1. -/
def ordinal (date : Date) : Nat :=
  daysBeforeYear date.year
    + ((List.range' 1 (date.month - 1)).map (daysInMonth date.year)).foldl (· + ·) 0 + (date.day - 1)

end Date

def Number.padded (width n : Nat) : List Char :=
  let digits := Nat.toDigits 10 n
  Number.zeros (width - digits.length) ++ digits

namespace Date

def text (date : Date) : List Char :=
  Number.padded 4 date.year ++ '-' :: Number.padded 2 date.month ++ '-' :: Number.padded 2 date.day

end Date

structure Moment where
  date : Date
  hour : Nat
  minute : Nat
  second : Nat
  microsecond : Nat
  /-- The minutes by which the clocks of the place are ahead of universal time, if they are known. -/
  ahead : Option Int
deriving DecidableEq, Repr, Inhabited

namespace Moment

/-- The point in time with the given numbers, if a day has it and its clocks are less than a day off universal time. -/
def make? (date : Date) (hour minute second microsecond : Nat) (ahead : Option Int) : Option Moment :=
  if hour < 24 ∧ minute < 60 ∧ second < 60 ∧ microsecond < 1000000 ∧ ahead.all (fun m ↦ -1440 < m && m < 1440) then
    some ⟨date, hour, minute, second, microsecond, ahead⟩
  else none

/-- Hours and minutes that clocks are ahead, with a sign. -/
def aheadText (minutes : Int) : List Char :=
  (if minutes < 0 then '-' else '+')
    :: (Number.padded 2 (minutes.natAbs / 60) ++ ':' :: Number.padded 2 (minutes.natAbs % 60))

def text (moment : Moment) : List Char :=
  moment.date.text ++ ' ' :: Number.padded 2 moment.hour ++ ':' :: Number.padded 2 moment.minute
    ++ ':' :: Number.padded 2 moment.second
    ++ (if moment.microsecond = 0 then [] else '.' :: Number.padded 6 moment.microsecond)
    ++ (moment.ahead.map aheadText).getD []

/-- Microseconds since the first day of the year 1, by universal time where the place is known. -/
def instant (moment : Moment) : Int :=
  let minutes : Int := ((moment.date.ordinal * 24 + moment.hour) * 60 + moment.minute : Nat) - moment.ahead.getD 0
  (minutes * 60 + moment.second) * 1000000 + moment.microsecond

/-- Whether two points in time are the same; one that knows its place is never one that does not. -/
def same (first second : Moment) : Bool :=
  first.ahead.isSome == second.ahead.isSome && first.instant == second.instant

end Moment

end ContractAudit
