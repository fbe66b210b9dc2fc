import ChainOfTrust.Der.Element

/-!
# Times

`UTCTime` is `YYMMDDhhmmssZ`, with years from 1950 to 2049, and `GeneralizedTime` is
`YYYYMMDDhhmmssZ`. Both name a second of a calendar day from 1970 on; the value is the number of
seconds since 1970 began.

- `Date`: a day of the Gregorian calendar, and its number;
- `Element.time?`: the seconds of a time in either form.
-/

namespace ChainOfTrust.Der

set_option autoImplicit false

/-! ## Days -/

structure Date where
  year : Nat
  month : Nat
  day : Nat
  deriving DecidableEq

namespace Date

def isLeap (year : Nat) : Bool := year % 4 = 0 ∧ (year % 100 ≠ 0 ∨ year % 400 = 0)

def daysInMonth (year month : Nat) : Nat :=
  if month = 2 then (if isLeap year then 29 else 28)
  else if month = 4 ∨ month = 6 ∨ month = 9 ∨ month = 11 then 30
  else 31

/-- A day of the calendar, in 1970 or later. -/
def isValid (d : Date) : Bool :=
  1970 ≤ d.year ∧ 1 ≤ d.month ∧ d.month ≤ 12 ∧ 1 ≤ d.day ∧ d.day ≤ daysInMonth d.year d.month

/-- The days of the years before `year`, counted from the year 1. -/
def daysBeforeYear (year : Nat) : Nat :=
  let y := year - 1
  365 * y + y / 4 - y / 100 + y / 400

def daysBeforeMonth (year month : Nat) : Nat :=
  (List.range' 1 (month - 1)).foldl (fun days m => days + daysInMonth year m) 0

/-- The number of the day, 1 January 1970 being day 0. -/
def toDays (d : Date) : Nat :=
  daysBeforeYear d.year - daysBeforeYear 1970 + daysBeforeMonth d.year d.month + (d.day - 1)

end Date

/-! ## Digits -/

/-- The number written by a run of decimal digits. -/
def decimal? (s : Bytes) : Option Nat :=
  if s.all fun b => 0x30 ≤ b && b ≤ 0x39 then
    some (s.foldl (fun n b => n * 10 + (b.toNat - 0x30)) 0)
  else none

/-- Month to second and the final `Z`, after the year. -/
def timeOfYear? (year : Nat) (s : Bytes) : Option Nat :=
  match s with
  | [m, m', d, d', h, h', i, i', s, s', z] => do
    let date : Date := ⟨year, ← decimal? [m, m'], ← decimal? [d, d']⟩
    let hour ← decimal? [h, h']
    let minute ← decimal? [i, i']
    let second ← decimal? [s, s']
    if z = 0x5A ∧ date.isValid ∧ hour ≤ 23 ∧ minute ≤ 59 ∧ second ≤ 59 then
      some (date.toDays * 86400 + hour * 3600 + minute * 60 + second)
    else none
  | _ => none

/-! ## Both forms -/

def utcTime? (s : Bytes) : Option Nat := do
  let yy ← decimal? (s.take 2)
  timeOfYear? (if 50 ≤ yy then 1900 + yy else 2000 + yy) (s.drop 2)

def generalizedTime? (s : Bytes) : Option Nat := do
  timeOfYear? (← decimal? (s.take 4)) (s.drop 4)

def Element.time? (e : Element) : Option Nat :=
  if e.tag = Tag.utcTime then utcTime? e.content
  else if e.tag = Tag.generalizedTime then generalizedTime? e.content
  else none

end ChainOfTrust.Der
