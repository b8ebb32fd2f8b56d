import CHeaders.Moment

/-!
# Timestamps

A timestamp is a year, a month and a day, and possibly a time behind them, with a fraction of a
second and an offset from universal time.

## Main definitions

* `CHeaders.Yaml.Timestamp`: the digits of a timestamp.
* `CHeaders.Yaml.Timestamp.ofChars?`: the digits in a text.
* `CHeaders.Yaml.Timestamp.moment`: the day or the instant they stand for.
-/

namespace CHeaders.Yaml

/-- The digits of an offset: whether it is negative, hours and minutes. -/
structure Offset where
  negative : Bool
  hours : List Char
  minutes : List Char

/-- The zone of a time. -/
inductive Zone where
  | unknown
  | universal
  | offset (o : Offset)

/-- The digits of a time. -/
structure Clock where
  hour : List Char
  minute : List Char
  second : List Char
  fraction : List Char
  zone : Zone

/-- The digits of a timestamp. -/
structure Timestamp where
  year : List Char
  month : List Char
  day : List Char
  clock : Option Clock

namespace Timestamp

/-- Digits at the beginning of the characters, of which there have to be `least` to `most`. -/
def digits? (least most : Nat) (cs : List Char) : Option (List Char × List Char) :=
  let ds := cs.takeWhile Char.isDigit
  if least ≤ ds.length && ds.length ≤ most then some (ds, cs.dropWhile Char.isDigit) else none

/-- What follows `c` at the beginning of the characters. -/
def after? (c : Char) : List Char → Option (List Char)
  | d :: rest => if d = c then some rest else none
  | [] => none

/-- A space or a tab. -/
def isGap (c : Char) : Bool :=
  c = ' ' || c = '\t'

/-- The zone that the characters spell. -/
def zone? (cs : List Char) : Option Zone :=
  if cs.isEmpty then some .unknown
  else
    match cs.dropWhile isGap with
    | ['Z'] => some .universal
    | c :: rest =>
      if c = '-' || c = '+' then do
        let (hours, rest) ← digits? 1 2 rest
        if rest.isEmpty then return .offset ⟨c = '-', hours, []⟩
        let (minutes, rest) ← digits? 2 2 (← after? ':' rest)
        if rest.isEmpty then return .offset ⟨c = '-', hours, minutes⟩ else none
      else none
    | [] => none

/-- The time that the characters spell. -/
def clock? (cs : List Char) : Option Clock := do
  let (hour, rest) ← digits? 1 2 cs
  let (minute, rest) ← digits? 2 2 (← after? ':' rest)
  let (second, rest) ← digits? 2 2 (← after? ':' rest)
  let (fraction, rest) := match rest with
    | '.' :: rest => (rest.takeWhile Char.isDigit, rest.dropWhile Char.isDigit)
    | _ => ([], rest)
  let zone ← zone? rest
  return ⟨hour, minute, second, fraction, zone⟩

/-- The time behind a day: a letter or white space, and the time itself. -/
def afterDay? (cs : List Char) : Option Clock :=
  match cs with
  | c :: rest =>
    if c = 'T' || c = 't' then clock? rest
    else if isGap c then clock? (rest.dropWhile isGap)
    else none
  | [] => none

/-- The digits of the timestamp that the characters spell. -/
def ofChars? (cs : List Char) : Option Timestamp := do
  let (year, rest) ← digits? 4 4 cs
  let (month, rest) ← digits? 1 2 (← after? '-' rest)
  let (day, rest) ← digits? 1 2 (← after? '-' rest)
  if rest.isEmpty then return ⟨year, month, day, none⟩
  let clock ← afterDay? rest
  return ⟨year, month, day, some clock⟩

/-- Whether a text that is not marked otherwise is taken for a timestamp. A day without a time has
to have all its digits. -/
def isImplicit (cs : List Char) : Bool :=
  match ofChars? cs with
  | some t => t.clock.isSome || (t.month.length == 2 && t.day.length == 2)
  | none => false

/-- The number that digits stand for. -/
def number (ds : List Char) : Nat :=
  Decimal.digitsValue 10 ds

/-- The microseconds that the digits of a fraction stand for; further digits do not count. -/
def micros (ds : List Char) : Nat :=
  number ((ds ++ List.replicate 6 '0').take 6)

/-- The minutes of a zone. -/
def Zone.minutes? : Zone → Option Int
  | .unknown => none
  | .universal => some 0
  | .offset o =>
    let m : Int := (number o.hours * 60 + number o.minutes : Nat)
    some (if o.negative then -m else m)

/-- The day or the instant that a timestamp stands for, if there is one. -/
def moment (t : Timestamp) : Except Moment.Fault Moment :=
  let year := number t.year
  let month := number t.month
  let day := number t.day
  match t.clock with
  | none => Moment.day? year month day
  | some c =>
    Moment.instant? year month day
      ⟨number c.hour, number c.minute, number c.second, micros c.fraction,
        Zone.minutes? c.zone⟩

end Timestamp

end CHeaders.Yaml
