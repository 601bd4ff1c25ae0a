import DartLayers.Yaml.Fault

/-!
# DartLayers — dates and times

A scalar may be a day, or a day with a time and an offset from universal time.

* **`readTime?`** — the fields of a written time.
* **`TimeFields.value`** — the day or the time, if it exists.
-/

namespace DartLayers.Yaml

/-- A day of the Gregorian calendar. -/
structure Day where
  year : Nat
  month : Nat
  day : Nat
  deriving Repr, DecidableEq

/-- A time on a day, with the offset from universal time in seconds if it is known. -/
structure Instant where
  day : Day
  hour : Nat
  minute : Nat
  second : Nat
  microsecond : Nat
  offset : Option Int
  deriving Repr, DecidableEq

/-- A written time of day. -/
structure ClockFields where
  hour : List Char
  minute : List Char
  second : List Char
  fraction : List Char
  offset : Option Int
  deriving Repr, DecidableEq

/-- A written day, with a time of day if there is one. -/
structure TimeFields where
  year : List Char
  month : List Char
  day : List Char
  clock : Option ClockFields
  deriving Repr, DecidableEq

/-! ## Written times -/

/-- One or two digits and what follows them; `least` may ask for two. -/
def takeField (least : Nat) (text : List Char) : Option (List Char × List Char) :=
  let digits := (text.take 2).takeWhile Char.isDigit
  if digits.length < least then none else some (digits, text.drop digits.length)

/-- The text after a mark. -/
def takeMark (mark : Char) : List Char → Option (List Char)
  | c :: rest => if c = mark then some rest else none
  | [] => none

/-- Spaces and tabs. -/
def isTimeBlank (c : Char) : Bool :=
  c == ' ' || c == '\t'

/-- The minutes of an offset after its hours. -/
def readOffsetMinutes (text : List Char) : Option Nat :=
  match text with
  | [] => some 0
  | _ => do
    let (minutes, rest) ← takeField 2 (← takeMark ':' text)
    if rest.isEmpty then some (Text.decimalValue minutes) else none

/-- An offset at the end of a time, in seconds; none inside if there is no offset. -/
def readOffset (text : List Char) : Option (Option Int) :=
  match text.dropWhile isTimeBlank with
  | [] => if text.isEmpty then some none else none
  | ['Z'] => some (some 0)
  | sign :: rest =>
    if sign == '+' || sign == '-' then do
      let (hours, afterHours) ← takeField 1 rest
      let minutes ← readOffsetMinutes afterHours
      let seconds : Int := Text.decimalValue hours * 3600 + minutes * 60
      return some (if sign == '-' then -seconds else seconds)
    else none

/-- A time of day up to the end of the text. -/
def readClock (text : List Char) : Option ClockFields := do
  let (hour, rest) ← takeField 1 text
  let (minute, rest) ← takeField 2 (← takeMark ':' rest)
  let (second, rest) ← takeField 2 (← takeMark ':' rest)
  let (fraction, rest) := match rest with
    | '.' :: after => (after.takeWhile Char.isDigit, after.dropWhile Char.isDigit)
    | _ => ([], rest)
  return { hour, minute, second, fraction, offset := ← readOffset rest }

/-- What separates a day from a time of day. -/
def dropTimeMark : List Char → Option (List Char)
  | 'T' :: rest => some rest
  | 't' :: rest => some rest
  | c :: rest => if isTimeBlank c then some (rest.dropWhile isTimeBlank) else none
  | [] => none

/-- A written time. -/
def readTime? (text : List Char) : Option TimeFields := do
  let year := (text.take 4).takeWhile Char.isDigit
  if year.length < 4 then none
  else
    let (month, rest) ← takeField 1 (← takeMark '-' (text.drop 4))
    let (day, rest) ← takeField 1 (← takeMark '-' rest)
    let clock ← if rest.isEmpty then pure none
      else (readClock (← dropTimeMark rest)).map some
    return { year, month, day, clock }

/-- Whether a plain scalar is taken for a time: a day alone needs two digits for month and day. -/
def looksLikeTime (text : List Char) : Bool :=
  (readTime? text).any fun fields =>
    fields.clock.isSome || (fields.month.length == 2 && fields.day.length == 2)

/-! ## The calendar -/

/-- Whether a year has a day more. -/
def isLeapYear (year : Nat) : Bool :=
  year % 4 == 0 && (year % 100 != 0 || year % 400 == 0)

/-- How many days a month has. -/
def daysInMonth (year month : Nat) : Nat :=
  if month == 2 then (if isLeapYear year then 29 else 28)
  else if month == 4 || month == 6 || month == 9 || month == 11 then 30
  else 31

/-- The fault of a day, the year first. -/
def Day.fault? (day : Day) : Option TimeFault :=
  if day.year == 0 then some (.year day.year)
  else if day.month == 0 || day.month > 12 then some .month
  else if day.day == 0 || day.day > daysInMonth day.year day.month then some .day
  else none

/-- The fault of a time: that of its offset, its day, then its fields in order. -/
def Instant.fault? (instant : Instant) : Option TimeFault :=
  let offsetFault := instant.offset.bind fun seconds =>
    if seconds.natAbs < 86400 then none else some (TimeFault.offset seconds)
  offsetFault.or <| instant.day.fault?.or <|
    if instant.hour > 23 then some .hour
    else if instant.minute > 59 then some .minute
    else if instant.second > 59 then some .second
    else none

/-- Microseconds of a written fraction: its first six digits. -/
def microseconds (fraction : List Char) : Nat :=
  Text.decimalValue ((fraction ++ List.replicate 6 '0').take 6)

/-- The day or the time that written fields denote, if it exists. -/
def TimeFields.value (fields : TimeFields) : Except TimeFault (Day ⊕ Instant) :=
  let day : Day :=
    ⟨Text.decimalValue fields.year, Text.decimalValue fields.month, Text.decimalValue fields.day⟩
  match fields.clock with
  | none =>
    match day.fault? with
    | some fault => .error fault
    | none => .ok (.inl day)
  | some clock =>
    let instant : Instant :=
      { day, hour := Text.decimalValue clock.hour, minute := Text.decimalValue clock.minute
        second := Text.decimalValue clock.second, microsecond := microseconds clock.fraction
        offset := clock.offset }
    match instant.fault? with
    | some fault => .error fault
    | none => .ok (.inr instant)

/-! ## Text and order -/

/-- A number with at least `width` digits. -/
def padded (width number : Nat) : String :=
  let digits := Nat.toDigits 10 number
  String.ofList (List.replicate (width - digits.length) '0' ++ digits)

/-- A day as text. -/
def Day.text (day : Day) : String :=
  padded 4 day.year ++ "-" ++ padded 2 day.month ++ "-" ++ padded 2 day.day

/-- An offset as text. -/
def offsetText (seconds : Int) : String :=
  let minutes := seconds.natAbs / 60
  (if seconds < 0 then "-" else "+") ++ padded 2 (minutes / 60) ++ ":" ++ padded 2 (minutes % 60)

/-- A time as text. -/
def Instant.text (instant : Instant) : String :=
  instant.day.text ++ "T" ++ padded 2 instant.hour ++ ":" ++ padded 2 instant.minute ++ ":" ++
    padded 2 instant.second ++
    (if instant.microsecond = 0 then "" else "." ++ padded 6 instant.microsecond) ++
    (instant.offset.map offsetText).getD ""

/-- How many days precede a day, from the first day of the first year. -/
def Day.ordinal (day : Day) : Nat :=
  let years := day.year - 1
  let months := (List.range (day.month - 1)).map fun month => daysInMonth day.year (month + 1)
  years * 365 + years / 4 - years / 100 + years / 400 + months.foldl Nat.add 0 + (day.day - 1)

/-- Microseconds from the first day of the first year, in universal time if the offset is known. -/
def Instant.moment (instant : Instant) : Int :=
  let seconds : Int := instant.day.ordinal * 86400 + instant.hour * 3600 + instant.minute * 60 +
    instant.second - instant.offset.getD 0
  seconds * 1000000 + instant.microsecond

/-- Whether two times are the same moment; a time without an offset is no moment of another one. -/
def Instant.same (a b : Instant) : Bool :=
  a.offset.isSome == b.offset.isSome && a.moment == b.moment

end DartLayers.Yaml
