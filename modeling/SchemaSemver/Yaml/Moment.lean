/-
SchemaSemver.Yaml.Moment — dates, and times of day on a date.

A moment is written as numbers of one or two digits between hyphens and colons, the year with four.
The time may have a fraction of a second and a distance from universal time.
-/
import SchemaSemver.Yaml.Token

namespace SchemaSemver.Yaml

/-! ## Moments -/

/-- The distance of a local time from universal time, its sign left out. -/
structure ZoneOffset where
  hours : Nat
  minutes : Nat
deriving DecidableEq, Repr

/-- A time of day. -/
structure TimeOfDay where
  hour : Nat
  minute : Nat
  second : Nat
  zone : Option ZoneOffset
deriving DecidableEq, Repr

/-- A date, and perhaps a time. -/
structure Moment where
  year : Nat
  month : Nat
  day : Nat
  time : Option TimeOfDay
deriving DecidableEq, Repr

/-! ## Existence -/

/-- Does the year have a 29th of February? -/
def isLeapYear (year : Nat) : Bool := year % 4 == 0 && (year % 100 != 0 || year % 400 == 0)

/-- The number of days of a month. -/
def daysOfMonth (year month : Nat) : Nat :=
  if month = 2 then (if isLeapYear year then 29 else 28)
  else if month = 4 ∨ month = 6 ∨ month = 9 ∨ month = 11 then 30
  else 31

/-- Is there such a distance? It is less than a day. -/
def ZoneOffset.isPossible (zone : ZoneOffset) : Bool := zone.hours * 60 + zone.minutes < 1440

/-- Is there such a time of day? -/
def TimeOfDay.isPossible (time : TimeOfDay) : Bool :=
  time.hour < 24 && time.minute < 60 && time.second < 60 && time.zone.all ZoneOffset.isPossible

/-- Is there such a moment? -/
def Moment.isPossible (moment : Moment) : Bool :=
  1 ≤ moment.year && 1 ≤ moment.month && moment.month ≤ 12 && 1 ≤ moment.day
    && moment.day ≤ daysOfMonth moment.year moment.month && moment.time.all TimeOfDay.isPossible

/-! ## Spelling -/

/-- The number that decimal digits spell. -/
def numberOfDigits (digits : List Char) : Nat :=
  digits.foldl (fun n c => 10 * n + (c.toNat - '0'.toNat)) 0

/-- A number of at least `least` and at most `most` digits in front, and the rest. -/
def takeNumber? (least most : Nat) (text : List Char) : Option (Nat × List Char) :=
  let digits := (text.take most).takeWhile Char.isDigit
  if digits.length < least then none
  else some (numberOfDigits digits, text.drop digits.length)

/-- The rest after a character in front. -/
def take? (c : Char) : List Char → Option (List Char)
  | d :: rest => if d = c then some rest else none
  | [] => none

/-- The distance from universal time that a text spells, if there is one: `Z`, or a sign with hours
and perhaps minutes. -/
def readZone? (text : List Char) : Option (Option ZoneOffset) :=
  match text with
  | [] => some none
  | _ =>
    match text.dropWhile isSpaceOrTab with
    | ['Z'] => some (some ⟨0, 0⟩)
    | sign :: rest => do
      if sign != '+' && sign != '-' then none
      let (hours, rest) ← takeNumber? 1 2 rest
      match rest with
      | [] => some (some ⟨hours, 0⟩)
      | _ =>
        let (minutes, rest) ← takeNumber? 2 2 (← take? ':' rest)
        if rest.isEmpty then some (some ⟨hours, minutes⟩) else none
    | [] => none

/-- The time of day that a text spells. -/
def readTime? (text : List Char) : Option TimeOfDay := do
  let (hour, rest) ← takeNumber? 1 2 text
  let (minute, rest) ← takeNumber? 2 2 (← take? ':' rest)
  let (second, rest) ← takeNumber? 2 2 (← take? ':' rest)
  let rest := match rest with
    | '.' :: fraction => fraction.dropWhile Char.isDigit
    | _ => rest
  return ⟨hour, minute, second, ← readZone? rest⟩

/-- The rest after what separates date and time: a letter, or blanks. -/
def afterDateMark? : List Char → Option (List Char)
  | 'T' :: rest => some rest
  | 't' :: rest => some rest
  | c :: rest => if isSpaceOrTab c then some (rest.dropWhile isSpaceOrTab) else none
  | [] => none

/-- The moment that a text spells. -/
def readMoment? (text : List Char) : Option Moment := do
  let (year, rest) ← takeNumber? 4 4 text
  let (month, afterMonth) ← takeNumber? 1 2 (← take? '-' rest)
  let (day, afterDay) ← takeNumber? 1 2 (← take? '-' afterMonth)
  if afterDay.isEmpty then return ⟨year, month, day, none⟩
  else return ⟨year, month, day, some (← readTime? (← afterDateMark? afterDay))⟩

/-- Is the text a moment without a tag saying so? A date alone then has two digits for the month and
two for the day. -/
def isMoment (text : List Char) : Bool :=
  (readMoment? text).any fun moment => moment.time.isSome || text.length == 10

/-- A date or moment must be spelled as one and exist. -/
def checkMoment (text : List Char) : Except ScalarFault Unit :=
  match readMoment? text with
  | some moment => if moment.isPossible then .ok () else .error .wrongDate
  | none => .error .noDate

end SchemaSemver.Yaml
