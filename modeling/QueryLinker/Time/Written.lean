import QueryLinker.Time.Timestamp

/-!
This module contains times as people write them: the parts of a date may have one digit, the time of
day stands behind a letter or blanks, and a zone may follow it. Only dates and times of the calendar
are times.
-/

namespace QueryLinker

structure WrittenClock where
  hour : Nat
  minute : Nat
  second : Nat
  micros : Nat
  offset? : Option Int
deriving DecidableEq, Repr

structure WrittenTime where
  date : Date
  isPadded : Bool
  clock? : Option WrittenClock
deriving DecidableEq, Repr

namespace WrittenTime

def number (least most : Nat) (cs : List Char) : Option (Nat × Nat × List Char) :=
  let digits := (cs.take most).takeWhile Char.isDigit
  if digits.length < least then none
  else
    some (digits.foldl (fun n c => n * 10 + (c.toNat - '0'.toNat)) 0, digits.length,
      cs.drop digits.length)

def after (c : Char) : List Char → Option (List Char)
  | d :: cs => if c == d then some cs else none
  | [] => none

def isBlank (c : Char) : Bool :=
  c == ' ' || c == '\t'

def fraction : List Char → Nat × List Char
  | '.' :: cs =>
    let digits := cs.takeWhile Char.isDigit
    let shown := digits.take 6
    let n := shown.foldl (fun n c => n * 10 + (c.toNat - '0'.toNat)) 0
    (n * Nat.pow 10 (6 - shown.length), cs.drop digits.length)
  | cs => (0, cs)

def zone? : List Char → Option Int
  | ['Z'] => some 0
  | sign :: cs => do
    if sign != '+' && sign != '-' then none
    else
      let (hours, _, cs) ← number 1 2 cs
      let minutes ←
        if cs.isEmpty then some 0
        else do
          let (minutes, _, cs) ← number 2 2 (← after ':' cs)
          if cs.isEmpty then some minutes else none
      let micros := hours * Timestamp.microsPerHour + minutes * Timestamp.microsPerMinute
      some (if sign == '-' then -micros else micros)
  | [] => none

def readClock? (cs : List Char) : Option WrittenClock := do
  let (hour, _, cs) ← number 1 2 cs
  let (minute, _, cs) ← number 2 2 (← after ':' cs)
  let (second, _, cs) ← number 2 2 (← after ':' cs)
  let (micros, cs) := fraction cs
  if cs.isEmpty then return ⟨hour, minute, second, micros, none⟩
  else return ⟨hour, minute, second, micros, some (← zone? (cs.dropWhile isBlank))⟩

def afterSeparator : List Char → Option (List Char)
  | c :: cs =>
    if c == 'T' || c == 't' then some cs
    else if isBlank c then some (cs.dropWhile isBlank)
    else none
  | [] => none

def read? (cs : List Char) : Option WrittenTime := do
  let (year, _, cs) ← number 4 4 cs
  let (month, monthSize, cs) ← number 1 2 (← after '-' cs)
  let (day, daySize, cs) ← number 1 2 (← after '-' cs)
  let isPadded := monthSize == 2 && daySize == 2
  if cs.isEmpty then return ⟨⟨year, month, day⟩, isPadded, none⟩
  else return ⟨⟨year, month, day⟩, isPadded, some (← readClock? (← afterSeparator cs))⟩

def timestamp (d : Date) (c : WrittenClock) : Except Timestamp.Flaw Timestamp := do
  Timestamp.checkOffset (c.offset?.getD 0)
  Timestamp.check
    { year := d.year, month := d.month, day := d.day, hour := c.hour, minute := c.minute
      second := c.second, micros := c.micros, offset? := c.offset? }

def day (t : WrittenTime) : Except Timestamp.Flaw Date := do
  Timestamp.checkDate t.date.year t.date.month t.date.day
  return t.date

end WrittenTime

end QueryLinker
