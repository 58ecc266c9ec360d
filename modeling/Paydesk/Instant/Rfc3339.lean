import Paydesk.Instant.Basic
import Paydesk.Instant.Calendar
import Paydesk.Power
import Paydesk.Text.Blank
import Paydesk.Text.Numeral

/-!
# Instants as text

An instant is written as date, `T` and time of day in universal time, with a fraction of three, six
or nine digits if it has one: the fewest that are exact. Reading is more liberal: fields may be
short and have blanks before them, `t` and a blank stand for `T`, any offset may follow, and digits
of the fraction after the ninth are dropped.
-/

namespace Paydesk.Instant

/-! ## Writing -/

def nanosPerSecond : Nat := 1000000000

/-- Four digits for the years up to 9999, and a sign in front for all others. -/
def yearText (year : Int) : List Char :=
  if 0 ≤ year ∧ year ≤ 9999 then Text.padded 4 year.natAbs
  else (if year < 0 then '-' else '+') :: Text.padded 4 year.natAbs

/-- The fraction of a second in the fewest groups of three digits that are exact. -/
def fractionText (nanos : Nat) : List Char :=
  if nanos = 0 then []
  else if nanos % 1000000 = 0 then '.' :: Text.padded 3 (nanos / 1000000)
  else if nanos % 1000 = 0 then '.' :: Text.padded 6 (nanos / 1000)
  else '.' :: Text.padded 9 nanos

/-- Date and time of day. -/
def localText (t : Instant) : List Char :=
  let date := Date.ofDays (t.seconds / 86400)
  let second := (t.seconds % 86400).toNat
  let leap := if nanosPerSecond ≤ t.nanos then 1 else 0
  yearText date.year ++ '-' :: Text.padded 2 date.month ++ '-' :: Text.padded 2 date.day ++
    'T' :: Text.padded 2 (second / 3600) ++ ':' :: Text.padded 2 (second / 60 % 60) ++
    ':' :: Text.padded 2 (second % 60 + leap) ++ fractionText (t.nanos % nanosPerSecond)

/-- The instant with `Z` for universal time. -/
def toText (t : Instant) : String :=
  String.ofList (t.localText ++ ['Z'])

/-- The instant with the offset of universal time in digits. -/
def toOffsetText (t : Instant) : String :=
  String.ofList (t.localText ++ "+00:00".toList)

/-! ## Reading -/

def skipBlanks (cs : List Char) : List Char :=
  cs.dropWhile Text.isBlank

/-- A number of at least one digit and at most so many. -/
def readNumber (width : Nat) (cs : List Char) : Option (Nat × List Char) :=
  let digits := (cs.take width).takeWhile Char.isDigit
  if digits.isEmpty then none else some (Text.digitsValue 0 digits, cs.drop digits.length)

/-- A number of two digits at most, after blanks and within bounds. -/
def readField (low high : Nat) (cs : List Char) : Option (Nat × List Char) :=
  (readNumber 2 (skipBlanks cs)).filter fun r => low ≤ r.1 && r.1 ≤ high

/-- A mark after blanks. -/
def readMark (mark : Char) (cs : List Char) : Option (List Char) :=
  match skipBlanks cs with
  | c :: rest => if c = mark then some rest else none
  | [] => none

/-- A year: four digits at most, or a sign and any number of digits. -/
def readYear (cs : List Char) : Option (Int × List Char) :=
  match skipBlanks cs with
  | '-' :: rest => (readNumber rest.length rest).map fun r => (-(r.1 : Int), r.2)
  | '+' :: rest => (readNumber rest.length rest).map fun r => ((r.1 : Int), r.2)
  | rest => (readNumber 4 rest).map fun r => ((r.1 : Int), r.2)

/-- A day that exists, in a year of the supported range. -/
def isSupported (date : Date) : Bool :=
  -262143 ≤ date.year && date.year ≤ 262142 && date.isValid

/-- A day of the supported range. -/
def readDate (cs : List Char) : Option (Date × List Char) := do
  let (year, cs) ← readYear cs
  let cs ← readMark '-' cs
  let (month, cs) ← readField 1 12 cs
  let cs ← readMark '-' cs
  let (day, cs) ← readField 1 31 cs
  let date : Date := ⟨year, month, day⟩
  if isSupported date then some (date, cs) else none

/-- The nanoseconds that a fraction denotes, if one follows. -/
def readFraction : List Char → Option (Nat × List Char)
  | '.' :: rest =>
    let digits := rest.takeWhile Char.isDigit
    let kept := digits.take 9
    if digits.isEmpty then none
    else some (Text.digitsValue 0 kept * tenTo (9 - kept.length), rest.drop digits.length)
  | cs => some (0, cs)

/-- Seconds since midnight and nanoseconds; the 60th second is a leap second. -/
def readTime (cs : List Char) : Option ((Nat × Nat) × List Char) := do
  let (hour, cs) ← readField 0 23 cs
  let cs ← readMark ':' cs
  let (minute, cs) ← readField 0 59 cs
  let cs ← readMark ':' cs
  let (second, cs) ← readField 0 60 cs
  let (nanos, cs) ← readFraction cs
  let base := hour * 3600 + minute * 60
  if second = 60 then some ((base + 59, nanos + nanosPerSecond), cs)
  else some ((base + second, nanos), cs)

/-- Exactly two digits. -/
def readPair : List Char → Option (Nat × List Char)
  | a :: b :: rest =>
    if a.isDigit && b.isDigit then some (Text.digitsValue 0 [a, b], rest) else none
  | _ => none

/-- The seconds of an offset in digits: hours and minutes, less than a day in all. -/
def readOffsetDigits (cs : List Char) : Option (Nat × List Char) := do
  let (hours, cs) ← readPair cs
  let (minutes, cs) ← readPair (cs.dropWhile fun c => c = ':' || Text.isBlank c)
  let seconds := hours * 3600 + minutes * 60
  if minutes ≤ 59 ∧ seconds < 86400 then some (seconds, cs) else none

/-- The seconds by which local time is ahead of universal time. -/
def readOffset (cs : List Char) : Option (Int × List Char) :=
  if (cs.take 3).map Char.toLower = "utc".toList then some (0, cs.drop 3)
  else
    match cs with
    | c :: rest =>
      if c = 'Z' ∨ c = 'z' then some (0, rest)
      else if c = '+' then (readOffsetDigits rest).map fun r => ((r.1 : Int), r.2)
      else if c = '-' ∨ c = '\u2212' then
        (readOffsetDigits rest).map fun r => (-(r.1 : Int), r.2)
      else none
    | [] => none

/-- The mark between date and time of day. -/
def readSeparator : List Char → Option (List Char)
  | c :: rest => if c = 't' ∨ c = 'T' ∨ c = ' ' then some rest else none
  | [] => none

/-- An instant as text; in universal time, too, it has to be a day of the supported range. -/
def read? (s : String) : Option Instant := do
  let (date, cs) ← readDate s.toList
  let cs ← readSeparator cs
  let ((second, nanos), cs) ← readTime cs
  let (offset, cs) ← readOffset (skipBlanks cs)
  let seconds := date.toDays * 86400 + second - offset
  if (skipBlanks cs).isEmpty ∧ isSupported (Date.ofDays (seconds / 86400)) then
    some ⟨seconds, nanos⟩
  else none

end Paydesk.Instant
