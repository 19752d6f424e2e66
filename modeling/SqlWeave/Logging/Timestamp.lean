import SqlWeave.Failure

/-!
# Points in time

A point in time is a count of microseconds since the start of 1970. It is written in the calendar
that has leap years every four years, but of the full centuries only every fourth one, always for
the zone of offset zero.
-/

namespace SqlWeave

/-- A day of the calendar. -/
structure CalendarDay where
  year : Int
  month : Nat
  day : Nat
  deriving DecidableEq, Inhabited

namespace CalendarDay

/-- The day that many days after the first of March of a year that is divisible by 400, within 400
years. Years are counted from March here, so that a leap day is the last day of its year. -/
def inCycle (n : Nat) : CalendarDay :=
  let year := (n - n / 1460 + n / 36524 - n / 146096) / 365
  let dayOfYear := n - (365 * year + year / 4 - year / 100)
  let month := (5 * dayOfYear + 2) / 153
  let day := dayOfYear - (153 * month + 2) / 5 + 1
  if month < 10 then ⟨Int.ofNat year, month + 3, day⟩ else ⟨Int.ofNat year + 1, month - 9, day⟩

/-- The day that many days after the start of 1970: 719468 days lie between the first of March of
the year zero and that start, and 146097 days make a cycle of 400 years. -/
def ofDays (n : Int) : CalendarDay :=
  let shifted := n + 719468
  let d := inCycle (shifted.emod 146097).toNat
  { d with year := d.year + 400 * shifted.ediv 146097 }

example : ofDays 0 = ⟨1970, 1, 1⟩ := rfl
example : ofDays 11016 = ⟨2000, 2, 29⟩ := rfl
example : ofDays (-1) = ⟨1969, 12, 31⟩ := rfl

end CalendarDay

/-- A point in time, in microseconds. -/
structure Timestamp where
  micros : Int
  deriving DecidableEq, Inhabited

namespace Timestamp

/-- The whole number nearest to a number, a half going to the even neighbour. -/
def nearestWhole (x : Double) : Int :=
  match x.read with
  | .finite negative m q =>
    let v := Shortest.binary m q
    let n := Int.ofNat (Decimal.roundDiv v.num v.den)
    if negative then -n else n
  | _ => 0

/-- The microseconds of a whole second. -/
def perSecond : Int := 1000000

/-- The second of a point in time and the microsecond in it. A point in time is kept as a binary
number of seconds, so that one far from 1970 is known less exactly than to the microsecond. `none`
when it lies too far off. -/
def seconds? (t : Timestamp) : Option (Int × Nat) := do
  let kept := Double.ofDecimal (t.micros < 0) t.micros.natAbs (-6)
  let whole ← kept.truncate?
  let micros := nearestWhole ((kept - Double.ofInt whole) * Double.ofInt perSecond)
  return if perSecond ≤ micros then (whole + 1, (micros - perSecond).toNat)
    else if micros < 0 then (whole - 1, (micros + perSecond).toNat)
    else (whole, micros.toNat)

/-- The date and the time of day, with the offset of the zone. Microseconds are written only when
there are some. -/
def iso (t : Timestamp) : Result String :=
  let far : Result String := .error (.fault "OverflowError" "timestamp out of range for platform time_t")
  match t.seconds? with
  | none => .error (.fault "OverflowError" "integer division result too large for a float")
  | some (seconds, micros) =>
    let d := CalendarDay.ofDays (seconds.ediv 86400)
    let ofDay := (seconds.emod 86400).toNat
    if pow2 63 ≤ seconds.natAbs then far
    else if d.year - 1900 < -Int.ofNat (pow2 31) || Int.ofNat (pow2 31) ≤ d.year - 1900 then
      .error (.fault "OSError" "[Errno 75] Value too large for defined data type")
    else if d.year < 1 || 9999 < d.year then .error (.badValue ("year " ++ toString d.year ++ " is out of range"))
    else .ok (Decimal.padded 4 d.year.toNat ++ "-" ++ Decimal.padded 2 d.month ++ "-" ++
      Decimal.padded 2 d.day ++ "T" ++ Decimal.padded 2 (ofDay / 3600) ++ ":" ++
      Decimal.padded 2 (ofDay / 60 % 60) ++ ":" ++ Decimal.padded 2 (ofDay % 60) ++
      (if micros = 0 then "" else "." ++ Decimal.padded 6 micros) ++ "+00:00")

end Timestamp

end SqlWeave
