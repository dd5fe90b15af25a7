import Retrace.Numeral

/-!
# Moments in time

A moment is a date, or a date with a time of day and maybe an offset from universal time.
`Moment.parse?` reads the form, and `Moment.fault?` says what is outside the calendar.
-/

namespace Retrace.Yaml

namespace Moment

/-- An offset from universal time. -/
structure Offset where
  negative : Bool
  hours : Nat
  minutes : Nat
deriving DecidableEq, Repr

/-- A time of day. -/
structure TimeOfDay where
  hour : Nat
  minute : Nat
  second : Nat
  offset : Option Offset
deriving DecidableEq, Repr

end Moment

/-- A moment as it is written. -/
structure Moment where
  year : Nat
  month : Nat
  day : Nat
  time : Option Moment.TimeOfDay
deriving DecidableEq, Repr

namespace Moment

/-- Reads from `least` to `most` digits. -/
def readDigits (least most : Nat) (t : Text) : Option (Nat × Text) :=
  let ds := (t.takeWhile Char.isDigit).take most
  if ds.length < least then none else some (Numeral.value ds, t.drop ds.length)

/-- Reads a character. -/
def readChar (c : Char) : Text → Option Text
  | [] => none
  | d :: t => if c = d then some t else none

/-- Drops spaces and tabs. -/
def dropGap (t : Text) : Text := t.dropWhile fun c => c = ' ' || c = '\t'

/-- Drops what stands between a date and a time: a letter T, or a gap. -/
def dropTimeMark : Text → Option Text
  | [] => none
  | c :: t =>
    if c = 'T' ∨ c = 't' then some t
    else if c = ' ' ∨ c = '\t' then some (dropGap t)
    else none

/-- Drops a point with the digits after it. -/
def dropFraction : Text → Text
  | '.' :: t => t.dropWhile Char.isDigit
  | t => t

/-- Reads the offset that makes up the whole of a text, or none for an empty one. -/
def readOffset (t : Text) : Option (Option Offset) :=
  if t.isEmpty then some none
  else
    match dropGap t with
    | ['Z'] => some (some ⟨false, 0, 0⟩)
    | sign :: t =>
      if sign ≠ '+' ∧ sign ≠ '-' then none
      else do
        let (hours, t) ← readDigits 1 2 t
        match t with
        | [] => pure (some ⟨sign = '-', hours, 0⟩)
        | t => do
          let (minutes, t) ← readDigits 2 2 (← readChar ':' t)
          if t.isEmpty then pure (some ⟨sign = '-', hours, minutes⟩) else none
    | [] => none

/-- Reads the time that makes up the whole of a text. -/
def readTime (t : Text) : Option TimeOfDay := do
  let t ← dropTimeMark t
  let (hour, t) ← readDigits 1 2 t
  let (minute, t) ← readDigits 2 2 (← readChar ':' t)
  let (second, t) ← readDigits 2 2 (← readChar ':' t)
  let offset ← readOffset (dropFraction t)
  pure { hour, minute, second, offset }

/-- Reads a moment.  One line feed at the end does not count. -/
def parse? (t : Text) : Option Moment := do
  let (year, t) ← readDigits 4 4 (Text.dropFinalLineEnd t)
  let (month, t) ← readDigits 1 2 (← readChar '-' t)
  let (day, t) ← readDigits 1 2 (← readChar '-' t)
  match t with
  | [] => pure { year, month, day, time := none }
  | t => pure { year, month, day, time := some (← readTime t) }

/-- The number of characters of a date with all its digits. -/
def fullDateLength : Nat := 10

/-- Whether a text is that of a moment without any mark: a date alone must have all its digits. -/
def isPlain (t : Text) : Bool :=
  match parse? t with
  | none => false
  | some m => m.time.isSome || (Text.dropFinalLineEnd t).length = fullDateLength

/-! ## The calendar -/

/-- Whether a year has a leap day. -/
def isLeap (year : Nat) : Bool := year % 4 = 0 && (year % 100 ≠ 0 || year % 400 = 0)

/-- The number of days of a month. -/
def daysIn (year month : Nat) : Nat :=
  if month = 2 then if isLeap year then 29 else 28
  else if month = 4 ∨ month = 6 ∨ month = 9 ∨ month = 11 then 30
  else 31

/-- The offset in seconds. -/
def Offset.seconds (o : Offset) : Int :=
  let n : Int := o.hours * 3600 + o.minutes * 60
  if o.negative then -n else n

/-- The seconds of a day. -/
def daySeconds : Int := 86400

/-- The wording of a span of time by its days and the seconds after them. -/
def shownSpan (seconds : Int) : Text :=
  let days := seconds / daySeconds
  let rest := seconds % daySeconds
  "datetime.timedelta(days=".toList ++ Numeral.signedDigits days
    ++ (if rest = 0 then [] else ", seconds=".toList ++ Numeral.signedDigits rest) ++ [')']

/-- What is wrong with an offset. -/
def Offset.fault? (o : Offset) : Option Text :=
  if -daySeconds < o.seconds ∧ o.seconds < daySeconds then none
  else
    some ("offset must be a timedelta strictly between -timedelta(hours=24) and ".toList
      ++ "timedelta(hours=24), not ".toList ++ shownSpan o.seconds ++ ['.'])

/-- What is wrong with a date. -/
def dateFault? (year month day : Nat) : Option Text :=
  if year = 0 then some "year 0 is out of range".toList
  else if month < 1 ∨ 12 < month then some "month must be in 1..12".toList
  else if day < 1 ∨ daysIn year month < day then some "day is out of range for month".toList
  else none

/-- What is wrong with a time of day. -/
def timeFault? (t : TimeOfDay) : Option Text :=
  if 23 < t.hour then some "hour must be in 0..23".toList
  else if 59 < t.minute then some "minute must be in 0..59".toList
  else if 59 < t.second then some "second must be in 0..59".toList
  else none

/-- What is wrong with a moment: its offset first, then its date, then its time. -/
def fault? (m : Moment) : Option Text :=
  ((m.time.bind (·.offset)).bind Offset.fault?).or
    ((dateFault? m.year m.month m.day).or (m.time.bind timeFault?))

end Moment

end Retrace.Yaml
