import QueryLinker.Text.Quoted

/-!
This module contains points in time as they are written down: a date, a time of day down to
microseconds, and how far the clock is ahead of universal time. Many spellings of one time are read;
one is written.
-/

namespace QueryLinker

structure Date where
  year : Nat
  month : Nat
  day : Nat
deriving DecidableEq, Repr, Inhabited

structure Timestamp where
  year : Nat
  month : Nat
  day : Nat
  hour : Nat := 0
  minute : Nat := 0
  second : Nat := 0
  micros : Nat := 0
  offset? : Option Int := none
deriving DecidableEq, Repr, Inhabited

namespace Timestamp

/-! The calendar. -/

def isLeap (year : Nat) : Bool :=
  year % 4 == 0 && (year % 100 != 0 || year % 400 == 0)

def daysInMonth (year month : Nat) : Nat :=
  match month with
  | 2 => if isLeap year then 29 else 28
  | 4 | 6 | 9 | 11 => 30
  | _ => 31

def daysBeforeYear (year : Nat) : Nat :=
  let y := year - 1
  y * 365 + y / 4 - y / 100 + y / 400

def daysBeforeMonth (year month : Nat) : Nat :=
  (List.range (month - 1)).foldl (fun days m => days + daysInMonth year (m + 1)) 0

def dayNumber (year month day : Nat) : Nat :=
  daysBeforeYear year + daysBeforeMonth year month + day

def weekday (number : Nat) : Nat :=
  (number + 6) % 7

def monthAndDay (year index : Nat) (fuel month : Nat) : Nat × Nat :=
  match fuel with
  | 0 => (month, index + 1)
  | fuel + 1 =>
    let days := daysInMonth year month
    if index < days then (month, index + 1) else monthAndDay year (index - days) fuel (month + 1)

def microsPerSecond : Int := 1000000
def microsPerMinute : Int := 60 * microsPerSecond
def microsPerHour : Int := 60 * microsPerMinute
def microsPerDay : Int := 24 * microsPerHour

def clock (t : Timestamp) : Int :=
  dayNumber t.year t.month t.day * microsPerDay + t.hour * microsPerHour +
    t.minute * microsPerMinute + t.second * microsPerSecond + t.micros

/-- The microseconds since the beginning of the calendar, if the zone is known. -/
def instant? (t : Timestamp) : Option Int :=
  t.offset?.map fun offset => t.clock - offset

def epochDay : Nat := dayNumber 1970 1 1

def yearOf (number : Nat) : Nat :=
  let guess := (number - 1) * 400 / dayNumber 400 12 31 + 1
  if number < dayNumber guess 1 1 then guess - 1
  else if dayNumber (guess + 1) 1 1 ≤ number then guess + 1
  else guess

def ofEpoch (micros : Nat) : Timestamp :=
  let number := epochDay + micros / microsPerDay.toNat
  let rest := micros % microsPerDay.toNat
  let year := yearOf number
  let (month, day) := monthAndDay year (number - dayNumber year 1 1) 12 1
  { year, month, day, hour := rest / microsPerHour.toNat
    minute := rest / microsPerMinute.toNat % 60, second := rest / microsPerSecond.toNat % 60
    micros := rest % microsPerSecond.toNat, offset? := some 0 }

/-! Writing. -/

def padded (width n : Nat) : String :=
  let digits := toString n
  String.ofList (List.replicate (width - digits.length) '0') ++ digits

def fractionText (micros : Nat) : String :=
  if micros = 0 then "" else "." ++ padded 6 micros

def offsetText (offset : Int) : String :=
  let n := offset.natAbs
  let seconds := n / 1000000
  let micros := n % 1000000
  (if offset < 0 then "-" else "+") ++ padded 2 (seconds / 3600) ++ ":" ++
    padded 2 (seconds / 60 % 60) ++
    (if seconds % 60 = 0 && micros = 0 then "" else ":" ++ padded 2 (seconds % 60)) ++
    fractionText micros

def text (t : Timestamp) : String :=
  padded 4 t.year ++ "-" ++ padded 2 t.month ++ "-" ++ padded 2 t.day ++ "T" ++ padded 2 t.hour ++
    ":" ++ padded 2 t.minute ++ ":" ++ padded 2 t.second ++ fractionText t.micros ++
    match t.offset? with
    | some offset => offsetText offset
    | none => ""

/-! Reading. -/

inductive Flaw where
  | malformed (text : LooseText)
  | year (n : Nat)
  | month
  | day
  | hour
  | minute
  | second
  | offset (micros : Int)
deriving DecidableEq, Repr

namespace Flaw

def spanText (micros : Int) : String :=
  let seconds := Int.fdiv micros microsPerSecond
  let named (name : String) (n : Int) : List String :=
    if n = 0 then [] else [name ++ "=" ++ toString n]
  let parts :=
    named "days" (Int.fdiv micros microsPerDay) ++
      named "seconds" (Int.fmod seconds (microsPerDay / microsPerSecond)) ++
      named "microseconds" (Int.fmod micros microsPerSecond)
  "datetime.timedelta(" ++ (if parts.isEmpty then "0" else ", ".intercalate parts) ++ ")"

def message : Flaw → String
  | .malformed text => "Invalid isoformat string: " ++ text.quoted
  | .year n => "year " ++ toString n ++ " is out of range"
  | .month => "month must be in 1..12"
  | .day => "day is out of range for month"
  | .hour => "hour must be in 0..23"
  | .minute => "minute must be in 0..59"
  | .second => "second must be in 0..59"
  | .offset micros =>
    "offset must be a timedelta strictly between -timedelta(hours=24) and " ++
      "timedelta(hours=24), not " ++ spanText micros ++ "."

end Flaw

def digits : Nat → Nat → List Char → Option (Nat × List Char)
  | 0, value, cs => some (value, cs)
  | n + 1, value, c :: cs =>
    if c.isDigit then digits n (value * 10 + (c.toNat - '0'.toNat)) cs else none
  | _ + 1, _, [] => none

def dateSize (cs : List Char) : Option Nat :=
  let at_ (i : Nat) : Char := cs.getD i ' '
  let size := cs.length
  if size = 7 then some 7
  else if at_ 4 == '-' then
    if at_ 5 == 'W' then
      if size < 8 then none
      else if 8 < size && at_ 8 == '-' then
        if size = 9 then none
        else if 10 < size && (at_ 10).isDigit then some 8
        else some 10
      else some 8
    else some 10
  else if at_ 4 == 'W' then
    let stop := 7 + ((cs.drop 7).takeWhile Char.isDigit).length
    if stop < 9 then some stop
    else if stop % 2 = 0 then some 7
    else some 8
  else some 8

def ofWeek? (year week day : Nat) : Option (Nat × Nat × Nat) :=
  let first := dayNumber year 1 1
  let start := weekday first
  let weeks := if year != 0 && (start = 3 || (start = 2 && isLeap year)) then 53 else 52
  if week = 0 || weeks < week || day = 0 || 7 < day then none
  -- The days of weeks before the year one are in no month.
  else if year = 0 then some (1, 0, 0)
  else
    let monday : Int := if start ≤ 3 then first - start else first + 7 - start
    let number := (monday + (week - 1) * 7 + (day - 1)).toNat
    let inYear :=
      if number < first then year - 1
      else if number < dayNumber (year + 1) 1 1 then year
      else year + 1
    let (month, day) := monthAndDay inYear (number - dayNumber inYear 1 1) 12 1
    some (inYear, month, day)

def readDate (cs : List Char) : Option (Nat × Nat × Nat) := do
  let (year, rest) ← digits 4 0 cs
  let separated := rest.head? == some '-'
  let rest := if separated then rest.drop 1 else rest
  match rest with
  | 'W' :: rest =>
    let (week, rest) ← digits 2 0 rest
    if rest.isEmpty then ofWeek? year week 1
    else
      let rest ← if separated then (if rest.head? == some '-' then some (rest.drop 1) else none)
        else some rest
      let (day, _) ← digits 1 0 rest
      ofWeek? year week day
  | rest =>
    let (month, rest) ← digits 2 0 rest
    let rest ← if separated then (if rest.head? == some '-' then some (rest.drop 1) else none)
      else some rest
    let (day, rest) ← digits 2 0 rest
    if rest.isEmpty then some (year, month, day) else none

structure ClockReading where
  values : List Nat
  micros : Nat
  excess : Bool

def isEnd : List Char → Bool
  | [] => true
  | c :: _ => c == '\x00'

def readFraction (values : List Nat) (cs : List Char) : Option ClockReading := do
  let size := min 6 cs.length
  let (value, rest) ← digits size 0 cs
  return ⟨values, value * Nat.pow 10 (6 - size), !isEnd (rest.dropWhile Char.isDigit)⟩

/--
Read hours, minutes and seconds, of which `count` are left; the later ones may be missing. Either
colons stand between all of them or between none. A single byte may be left over; a longer character
is no separator.
-/
def readClock (separated? : Option Bool) (values : List Nat) :
    Nat → List Char → Option ClockReading
  | 0, cs => readFraction values cs
  | count + 1, cs => do
    let (value, rest) ← digits 2 0 cs
    let values := values ++ [value]
    let separated := separated?.getD (rest.head? == some ':')
    match rest with
    | [] => return ⟨values, 0, false⟩
    | c :: after =>
      if after.isEmpty && c.utf8Size = 1 then return ⟨values, 0, !isEnd rest⟩
      else if separated && c == ':' then readClock (some separated) values count after
      else if c == '.' || c == ',' then readFraction values after
      else if !separated then readClock (some separated) values count rest
      else none

def clockOf (cs : List Char) : Option ClockReading :=
  readClock none [] 3 cs

def readOffset (negative : Bool) (cs : List Char) : Option (Int × Int) := do
  let r ← clockOf cs
  if r.excess then none
  else
    let value (i : Nat) : Int := Int.ofNat (r.values.getD i 0)
    let seconds := value 0 * 3600 + value 1 * 60 + value 2
    let sign : Int := if negative then -1 else 1
    some (sign * seconds, if seconds = 0 then 0 else sign * Int.ofNat r.micros)

structure Reading where
  date : Nat × Nat × Nat
  clock : ClockReading
  offset? : Option (Int × Int)

def readTime (date : Nat × Nat × Nat) (cs : List Char) : Option Reading := do
  let isSign (c : Char) : Bool := c == '+' || c == '-' || c == 'Z'
  let clock ← clockOf (cs.takeWhile fun c => !isSign c)
  match cs.dropWhile fun c => !isSign c with
  | [] => if clock.excess then none else some ⟨date, clock, none⟩
  | 'Z' :: rest => if isEnd rest then some ⟨date, clock, some (0, 0)⟩ else none
  | sign :: rest => some ⟨date, clock, some (← readOffset (sign == '-') rest)⟩

def read? (text : String) : Option Reading := do
  let cs := text.toList
  if cs.length < 7 then none
  else
    let size ← dateSize cs
    let date ← readDate (cs.take size)
    if cs.length ≤ size then
      some ⟨date, ⟨[], 0, false⟩, none⟩
    else readTime date (cs.drop (size + 1))

def checkOffset (micros : Int) : Except Flaw Unit :=
  if microsPerDay ≤ micros.natAbs then .error (.offset micros) else .ok ()

def checkDate (year month day : Nat) : Except Flaw Unit :=
  if year = 0 || 9999 < year then .error (.year year)
  else if month = 0 || 12 < month then .error .month
  else if day = 0 || daysInMonth year month < day then .error .day
  else .ok ()

def checkClock (hour minute second : Nat) : Except Flaw Unit :=
  if 23 < hour then .error .hour
  else if 59 < minute then .error .minute
  else if 59 < second then .error .second
  else .ok ()

def check (t : Timestamp) : Except Flaw Timestamp := do
  checkDate t.year t.month t.day
  checkClock t.hour t.minute t.second
  return t

def separatorPlaces : List Nat :=
  [7, 8, 10]

def characters? (text : LooseText) : Option String :=
  -- Anything may stand between a date and a time of day, even half a surrogate pair.
  let isHalf (place : Nat) : Bool := text.letters[place]?.any fun letter => letter.char?.isNone
  match separatorPlaces.find? isHalf with
  | some place => LooseText.string? ⟨text.letters.set place (.char 'T')⟩
  | none => text.string?

def ofText (text : LooseText) : Except Flaw Timestamp :=
  match (characters? text).bind read? with
  | none => .error (.malformed text)
  | some r => do
    let (year, month, day) := r.date
    let value (i : Nat) : Nat := r.clock.values.getD i 0
    let offset? := r.offset?.map fun (seconds, micros) => seconds * microsPerSecond + micros
    checkOffset (offset?.getD 0)
    check
      { year, month, day, hour := value 0, minute := value 1, second := value 2
        micros := r.clock.micros, offset? }

end Timestamp

end QueryLinker
