import CHeaders.Number.Decimal

/-!
# Days and instants

A document may hold a calendar day or an instant: a day with a time and possibly an offset from
universal time. Both are checked when they are made.

## Main definitions

* `CHeaders.Moment`: a day or an instant.
* `CHeaders.Moment.day?`, `CHeaders.Moment.instant?`: the checked constructors.
* `CHeaders.Moment.text`, `CHeaders.Moment.literal`: the two written forms.
-/

namespace CHeaders

/-- A time of day in microseconds' precision, with the offset from universal time in minutes if
one is known. -/
structure Time where
  hour : Nat
  minute : Nat
  second : Nat
  micro : Nat
  offset : Option Int
  deriving DecidableEq, Repr

/-- A calendar day, or an instant on one. -/
structure Moment where
  year : Nat
  month : Nat
  day : Nat
  time : Option Time
  deriving DecidableEq, Repr

namespace Moment

/-- What is wrong with a day or a time. -/
inductive Fault where
  | year (given : Nat)
  | month
  | day
  | hour
  | minute
  | second
  | offset (minutes : Int)
  deriving DecidableEq, Repr

/-- How long a span of `minutes` is, as days and seconds of which the latter are not negative. -/
def spanLiteral (minutes : Int) : String :=
  let days := Int.fdiv minutes 1440
  let seconds := (minutes - days * 1440) * 60
  let parts := (if days = 0 then [] else ["days=" ++ Decimal.ofInt days]) ++
    (if seconds = 0 then [] else ["seconds=" ++ Decimal.ofInt seconds])
  match parts with
  | [] => "datetime.timedelta(0)"
  | [p] => "datetime.timedelta(" ++ p ++ ")"
  | p :: q :: _ => "datetime.timedelta(" ++ p ++ ", " ++ q ++ ")"

/-- The wording of a fault. -/
def Fault.message : Fault → String
  | .year y => "year " ++ Decimal.ofNat y ++ " is out of range"
  | .month => "month must be in 1..12"
  | .day => "day is out of range for month"
  | .hour => "hour must be in 0..23"
  | .minute => "minute must be in 0..59"
  | .second => "second must be in 0..59"
  | .offset m => "offset must be a timedelta strictly between -timedelta(hours=24) and " ++
      "timedelta(hours=24), not " ++ spanLiteral m ++ "."

/-- Whether February of a year has 29 days. -/
def isLeap (year : Nat) : Bool :=
  year % 4 = 0 && (year % 100 ≠ 0 || year % 400 = 0)

/-- The number of days of a month. -/
def daysIn (year month : Nat) : Nat :=
  if month = 2 then (if isLeap year then 29 else 28)
  else if month = 4 || month = 6 || month = 9 || month = 11 then 30
  else 31

/-- The calendar day, if there is one. -/
def day? (year month day : Nat) : Except Fault Moment :=
  if year < 1 || 9999 < year then .error (.year year)
  else if month < 1 || 12 < month then .error .month
  else if day < 1 || daysIn year month < day then .error .day
  else .ok ⟨year, month, day, none⟩

/-- The instant, if its day, its time and its offset are possible. The offset is judged first. -/
def instant? (year month day : Nat) (time : Time) : Except Fault Moment :=
  match time.offset with
  | some m => if 1440 ≤ m.natAbs then .error (.offset m) else onDay
  | none => onDay
where
  /-- The instant on a day that is still to be checked. -/
  onDay : Except Fault Moment :=
    match day? year month day with
    | .error f => .error f
    | .ok d =>
      if 23 < time.hour then .error .hour
      else if 59 < time.minute then .error .minute
      else if 59 < time.second then .error .second
      else .ok { d with time := some time }

/-- The digits of `n` with zeros in front up to `places`. -/
def padded (places n : Nat) : String :=
  let ds := Decimal.digits n
  String.ofList (List.replicate (places - ds.length) '0' ++ ds)

/-- The written form: year, month and day, then the time and the offset if there are any. -/
def text (m : Moment) : String :=
  padded 4 m.year ++ "-" ++ padded 2 m.month ++ "-" ++ padded 2 m.day ++
    match m.time with
    | none => ""
    | some t =>
      " " ++ padded 2 t.hour ++ ":" ++ padded 2 t.minute ++ ":" ++ padded 2 t.second ++
        (if t.micro = 0 then "" else "." ++ padded 6 t.micro) ++
        match t.offset with
        | none => ""
        | some o => (if o < 0 then "-" else "+") ++ padded 2 (o.natAbs / 60) ++ ":" ++
            padded 2 (o.natAbs % 60)

/-- The form in which a moment is shown inside lists and messages. -/
def literal (m : Moment) : String :=
  let date := [m.year, m.month, m.day]
  match m.time with
  | none => "datetime.date(" ++ commas date ++ ")"
  | some t =>
    let clock := [t.hour, t.minute] ++
      (if t.second = 0 && t.micro = 0 then [] else [t.second]) ++
      (if t.micro = 0 then [] else [t.micro])
    let zone := match t.offset with
      | none => ""
      | some 0 => ", tzinfo=datetime.timezone.utc"
      | some o => ", tzinfo=datetime.timezone(" ++ spanLiteral o ++ ")"
    "datetime.datetime(" ++ commas (date ++ clock) ++ zone ++ ")"
where
  /-- Numbers with commas between them. -/
  commas : List Nat → String
    | [] => ""
    | [n] => Decimal.ofNat n
    | n :: k :: rest => Decimal.ofNat n ++ ", " ++ commas (k :: rest)

/-- The number of days from the first day of the calendar. -/
def ordinal (m : Moment) : Nat :=
  let y := m.year - 1
  let before := (List.range (m.month - 1)).foldl (fun days k => days + daysIn m.year (k + 1)) 0
  y * 365 + y / 4 - y / 100 + y / 400 + before + m.day

/-- The microseconds from the beginning of the calendar in universal time; the offset counts as
none when it is not known. -/
def position (m : Moment) : Int :=
  match m.time with
  | none => (m.ordinal : Int) * 86400000000
  | some t =>
    ((m.ordinal : Int) * 86400 + t.hour * 3600 + t.minute * 60 + t.second -
      t.offset.getD 0 * 60) * 1000000 + t.micro

/-- Whether two moments are of one kind: two days, two instants with an offset, or two without. -/
def comparable (a b : Moment) : Bool :=
  match a.time, b.time with
  | none, none => true
  | some s, some t => s.offset.isSome == t.offset.isSome
  | _, _ => false

/-- Two moments are the same when they are of one kind and at one place in time. -/
def sameAs (a b : Moment) : Bool :=
  comparable a b && a.position == b.position

end Moment

end CHeaders
