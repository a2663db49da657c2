import RecordRules.Moment.Basic
import RecordRules.Text.Blank
import RecordRules.Word

/-! # Dates and times in text

Reads the written forms of a date that records use: timestamps with an offset
(`2024-01-15T10:30:00Z`), dates of mail headers (`Mon, 15 Jan 2024 10:30:00 +0000`), and
dates with or without a time of day in a few fixed layouts, which are taken as UTC.

* `Moment.ofText?`   the moment that a text names; bare digits name none -/

namespace RecordRules

/-- A reader takes characters from the front of a text, or fails. -/
abbrev DateReader := StateT (List Char) Option

namespace DateReader

/-- Takes a given character. -/
def char (c : Char) : DateReader Unit := fun cs =>
  match cs with
  | d :: rest => if d = c then some ((), rest) else none
  | [] => none

/-- Takes any of the given characters. -/
def oneOf (allowed : List Char) : DateReader Unit := fun cs =>
  match cs with
  | d :: rest => if allowed.contains d then some ((), rest) else none
  | [] => none

/-- Takes blanks, if there are any. -/
def blanks : DateReader Unit := fun cs =>
  some ((), cs.dropWhile isBlank)

/-- Takes at least one blank. -/
def someBlanks : DateReader Unit := fun cs =>
  match cs with
  | c :: rest => if isBlank c then some ((), rest.dropWhile isBlank) else none
  | [] => none

/-- The natural that decimal digits are worth. -/
def worth (digits : List Char) : Nat :=
  digits.foldl (fun n c => 10 * n + (c.toNat - '0'.toNat)) 0

/-- Takes at least `least` and at most `most` digits. -/
def number (least most : Nat) : DateReader Nat := fun cs =>
  let digits := (cs.take most).takeWhile Char.isDigit
  if digits.length < least then none else some (worth digits, cs.drop digits.length)

/-- Takes all digits, at least `least` of them; no more than a 64-bit integer holds. -/
def longNumber (least : Nat) : DateReader Nat := fun cs =>
  let digits := cs.takeWhile Char.isDigit
  if digits.length < least then none
  else if isSigned64 (worth digits) then some (worth digits, cs.drop digits.length)
  else none

/-- Digits of a fraction of a second as nanoseconds; what follows the ninth is dropped. -/
def fraction : DateReader Nat := fun cs =>
  let digits := cs.takeWhile Char.isDigit
  if digits.isEmpty then none
  else some (worth ((digits ++ List.replicate 9 '0').take 9), cs.drop digits.length)

/-- A point and a fraction, if a point comes next. -/
def optionalFraction : DateReader Nat := fun cs =>
  match cs with
  | '.' :: rest => fraction rest
  | _ => some (0, cs)

/-- A name among three-letter names, in either case, as its place in the list. -/
def name (names : List String) : DateReader Nat := fun cs =>
  let lower := (cs.take 3).map Char.toLower
  match names.findIdx? (·.toList = lower) with
  | some i => some (i, cs.drop 3)
  | none => none

/-- Reads a whole text. -/
def all? {α : Type} (r : DateReader α) (cs : List Char) : Option α :=
  match r cs with
  | some (a, []) => some a
  | _ => none

/-- A sign and hours and minutes of an offset, in seconds, with `separator` between them;
    `signs` are the spellings of minus. -/
def signedOffset (signs : List Char) (separator : DateReader Unit) : DateReader Int := do
  let c ← (fun cs => match cs with
    | c :: rest => some (c, rest)
    | [] => none : DateReader Char)
  if c ≠ '+' ∧ ¬ signs.contains c then failure
  let hours ← number 2 2
  separator
  let minutes ← number 2 2
  if 60 ≤ minutes then failure
  let seconds : Int := hours * 3600 + minutes * 60
  return if c = '+' then seconds else -seconds

/-- The offset of a timestamp: `Z`, or hours and minutes with a colon, less than a day. -/
def timestampOffset : DateReader Int := fun cs =>
  match cs with
  | 'Z' :: rest | 'z' :: rest => some (0, rest)
  | _ => do
    let (seconds, rest) ← signedOffset ['-', '−'] (char ':') cs
    if seconds.natAbs < 86400 then some (seconds, rest) else none

/-- A timestamp with four-digit year, two-digit parts and an offset. -/
def timestamp : DateReader CivilTime := do
  let year ← number 4 4
  char '-'
  let month ← number 2 2
  char '-'
  let day ← number 2 2
  oneOf ['T', 't', ' ']
  let hour ← number 2 2
  char ':'
  let minute ← number 2 2
  char ':'
  let second ← number 2 2
  let nanos ← optionalFraction
  let offset ← timestampOffset
  return ⟨year, month, day, hour, minute, second, nanos, offset⟩

/-- Days of the week, Monday first. -/
def weekdayNames : List String := ["mon", "tue", "wed", "thu", "fri", "sat", "sun"]

/-- Months, January first. -/
def monthNames : List String :=
  ["jan", "feb", "mar", "apr", "may", "jun", "jul", "aug", "sep", "oct", "nov", "dec"]

/-- Hours that a zone name of mail headers stands for. -/
def zoneHours? (zone : List Char) : Option Int :=
  match String.ofList (zone.map Char.toLower) with
  | "gmt" | "ut" => some 0
  | "edt" => some (-4)
  | "est" | "cdt" => some (-5)
  | "cst" | "mdt" => some (-6)
  | "mst" | "pdt" => some (-7)
  | "pst" => some (-8)
  | lower => if lower.length = 1 ∧ lower ≠ "j" then some 0 else none

/-- The zone of a mail header: a name, or a sign with four digits; less than a day. -/
def mailOffset : DateReader Int := fun cs =>
  let zone := cs.takeWhile Char.isAlpha
  if zone.isEmpty then do
    let (seconds, rest) ← signedOffset ['-'] (pure ()) cs
    if seconds.natAbs < 86400 then some (seconds, rest) else none
  else (zoneHours? zone).map fun h => (h * 3600, cs.drop zone.length)

/-- The rest after a comment in parentheses; they nest, and a backslash takes the next
    character with it. -/
def afterComment? (depth : Nat) : List Char → Option (List Char)
  | [] => none
  | '\\' :: _ :: rest => afterComment? depth rest
  | '(' :: rest => afterComment? (depth + 1) rest
  | ')' :: rest => if depth = 0 then some rest else afterComment? (depth - 1) rest
  | _ :: rest => afterComment? depth rest

/-- Whether only comments and blanks in front of them are left. -/
def onlyComments : Nat → List Char → Bool
  | _, [] => true
  | 0, _ => false
  | fuel + 1, cs =>
    match cs.dropWhile isBlank with
    | '(' :: rest => ((afterComment? 0 rest).map (onlyComments fuel)).getD false
    | _ => false

/-- Years of mail headers may be short: two digits belong to 1950 to 2049, three count
    from 1900. -/
def mailYear (digits year : Nat) : Nat :=
  if digits = 2 then if year ≤ 49 then year + 2000 else year + 1900
  else if digits = 3 then year + 1900
  else year

/-- A day of the week with its comma, if one comes next. -/
def optionalWeekday : DateReader (Option Nat) := fun cs =>
  match name weekdayNames cs with
  | some (i, ',' :: rest) => some (some i, rest)
  | some _ => none
  | none => some (none, cs)

/-- Seconds after a colon, if a colon comes next. -/
def optionalSecond : DateReader Nat := fun cs =>
  match cs.dropWhile isBlank with
  | ':' :: rest => number 2 2 rest
  | _ => some (0, cs)

/-- The date of a mail header, up to its comments. -/
def mailDate : DateReader (Option Nat × CivilTime) := do
  blanks
  let weekday ← optionalWeekday
  blanks
  let day ← number 1 2
  someBlanks
  let month ← name monthNames
  someBlanks
  let before ← get
  let year ← longNumber 2
  let year := mailYear (before.length - (← get).length) year
  someBlanks
  let hour ← number 2 2
  blanks
  char ':'
  blanks
  let minute ← number 2 2
  let second ← optionalSecond
  someBlanks
  let offset ← mailOffset
  return (weekday, ⟨year, month + 1, day, hour, minute, second, 0, offset⟩)

/-- The moment of a mail header; a day of the week has to be the right one. -/
def mailMoment? (cs : List Char) : Option Moment := do
  let ((weekday, civil), rest) ← mailDate cs
  if !onlyComments rest.length rest then none
  let t ← civil.moment?
  if weekday.all (· == weekdayOfDays civil.days) then some t else none

/-- A year with an optional sign; only a signed year may have more than four digits. -/
def year : DateReader Int := fun cs =>
  match cs.dropWhile isBlank with
  | '-' :: rest => (longNumber 1 rest).map fun (n, r) => (-(n : Int), r)
  | '+' :: rest => (longNumber 1 rest).map fun (n, r) => ((n : Int), r)
  | rest => (number 1 4 rest).map fun (n, r) => ((n : Int), r)

/-- A part of a date of one or two digits; blanks may stand in front. -/
def part : DateReader Nat := do
  blanks
  number 1 2

/-- Year, month and day with a separator. -/
def yearMonthDay (separator : Char) : DateReader (Int × Nat × Nat) := do
  let y ← year
  char separator
  let m ← part
  char separator
  let d ← part
  return (y, m, d)

/-- Month, day and year between slashes. -/
def monthDayYear : DateReader (Int × Nat × Nat) := do
  let m ← part
  char '/'
  let d ← part
  char '/'
  let y ← year
  return (y, m, d)

/-- How precise a time of day is written. -/
inductive Precision where
  | minutes
  | seconds
  | fractions
  deriving DecidableEq

/-- A time of day as hour, minute, second and nanoseconds. -/
def timeOfDay (precision : Precision) : DateReader (Nat × Nat × Nat × Nat) := do
  let h ← part
  char ':'
  let m ← part
  if precision = .minutes then return (h, m, 0, 0)
  char ':'
  let s ← part
  if precision = .seconds then return (h, m, s, 0)
  return (h, m, s, ← optionalFraction)

/-- A date, a separator and a time of day, taken as UTC. -/
def dateTime (date : DateReader (Int × Nat × Nat)) (separator : DateReader Unit)
    (precision : Precision) : DateReader CivilTime := do
  let (y, m, d) ← date
  separator
  let (hour, minute, second, nanos) ← timeOfDay precision
  return ⟨y, m, d, hour, minute, second, nanos, 0⟩

/-- A date alone is its midnight. -/
def midnight (date : DateReader (Int × Nat × Nat)) : DateReader CivilTime := do
  let (y, m, d) ← date
  return ⟨y, m, d, 0, 0, 0, 0, 0⟩

/-- The layouts without an offset, in the order they are tried. -/
def layouts : List (DateReader CivilTime) :=
  [dateTime (yearMonthDay '-') (char 'T') .fractions,
   dateTime (yearMonthDay '-') (char 'T') .minutes,
   dateTime (yearMonthDay '-') blanks .fractions,
   dateTime (yearMonthDay '-') blanks .minutes,
   dateTime (yearMonthDay '/') blanks .seconds,
   midnight (yearMonthDay '-'),
   midnight (yearMonthDay '/'),
   midnight monthDayYear]

end DateReader

namespace Moment

/-- The moment that a text names, if it is a date in one of the known forms. -/
def ofText? (s : String) : Option Moment :=
  let cs := trimBlanks s.toList
  if cs.all Char.isDigit then none
  else
    (DateReader.all? .timestamp cs).bind CivilTime.moment?
      <|> DateReader.mailMoment? cs
      <|> DateReader.layouts.findSome? fun layout =>
        (DateReader.all? layout cs).bind CivilTime.moment?

end Moment
end RecordRules
