/-!
# Dates and times

A date, a time of day, or both, the latter with or without an offset from
universal time.  The text form is that of RFC 3339, where the seconds and what
follows them may be left out.

A date-time is read strictly: every number has its fixed count of digits and
lies in its range, the day fits the month, and nothing follows.  It is written
in one normal form, with seconds and without trailing zeros in the fraction.
-/

namespace CppModel.Toml

/-- A day of the calendar. -/
structure Date where
  year : Nat
  month : Nat
  day : Nat
  deriving DecidableEq, Repr

/-- A time of day. -/
structure Time where
  hour : Nat
  minute : Nat
  second : Nat
  nanosecond : Nat
  deriving DecidableEq, Repr

/-- The difference from universal time. -/
inductive Offset
  | universal
  | minutes (count : Int)
  deriving DecidableEq, Repr

/-- A date, a time of day, or a point in time. -/
structure DateTime where
  date : Option Date
  time : Option Time
  offset : Option Offset
  deriving DecidableEq, Repr

namespace DateTime

/-! ## Reading -/

/-- The number that decimal digits stand for. -/
def number (digits : List Char) : Nat :=
  digits.foldl (fun value digit => value * 10 + (digit.toNat - '0'.toNat)) 0

/-- Exactly `count` digits in front, and what follows them. -/
def digits? (count : Nat) (text : List Char) : Option (Nat × List Char) :=
  let digits := text.takeWhile Char.isDigit
  if digits.length = count then some (number digits, text.dropWhile Char.isDigit) else none

/-- A number of two digits between two bounds, and what follows it. -/
def pair? (least greatest : Nat) (text : List Char) : Option (Nat × List Char) := do
  let (value, rest) ← digits? 2 text
  if least ≤ value ∧ value ≤ greatest then some (value, rest) else none

/-- What follows one given character. -/
def after? (mark : Char) : List Char → Option (List Char)
  | character :: rest => if character = mark then some rest else none
  | [] => none

/-- Whether a year has a twenty-ninth of February. -/
def isLeapYear (year : Nat) : Bool :=
  year % 4 = 0 && (year % 100 ≠ 0 || year % 400 = 0)

/-- The number of days in a month. -/
def daysInMonth (year month : Nat) : Nat :=
  if month = 2 then if isLeapYear year then 29 else 28
  else if month = 4 ∨ month = 6 ∨ month = 9 ∨ month = 11 then 30
  else 31

/-- A date, and what follows it. -/
def date? (text : List Char) : Option (Date × List Char) := do
  let (year, rest) ← digits? 4 text
  let (month, rest) ← pair? 1 12 (← after? '-' rest)
  let (day, rest) ← pair? 1 (daysInMonth year month) (← after? '-' rest)
  some (⟨year, month, day⟩, rest)

/-- The nanoseconds that the digits behind the point stand for.  Digits beyond
the ninth are dropped, and missing ones are zeros. -/
def nanoseconds (digits : List Char) : Nat :=
  number ((digits ++ List.replicate 9 '0').take 9)

/-- A fraction of a second behind a point, if there is one. -/
def fraction? (text : List Char) : Option (Nat × List Char) :=
  match text with
  | '.' :: rest =>
      match rest.takeWhile Char.isDigit with
      | [] => none
      | digits => some (nanoseconds digits, rest.dropWhile Char.isDigit)
  | _ => some (0, text)

/-- A time of day, and what follows it.  The sixtieth second is a leap
second. -/
def time? (text : List Char) : Option (Time × List Char) := do
  let (hour, rest) ← pair? 0 23 text
  let (minute, rest) ← pair? 0 59 (← after? ':' rest)
  match rest with
  | ':' :: rest =>
      let (second, rest) ← pair? 0 60 rest
      let (nanosecond, rest) ← fraction? rest
      some (⟨hour, minute, second, nanosecond⟩, rest)
  | _ => some (⟨hour, minute, 0, 0⟩, rest)

/-- An offset of hours and minutes, behind its sign. -/
def minutes? (text : List Char) : Option Nat := do
  let (hours, rest) ← pair? 0 23 text
  let (minutes, rest) ← pair? 0 59 (← after? ':' rest)
  if rest.isEmpty then some (hours * 60 + minutes) else none

/-- The offset that ends a point in time, if there is one. -/
def offset? : List Char → Option (Option Offset)
  | [] => some none
  | ['Z'] => some (some .universal)
  | ['z'] => some (some .universal)
  | '+' :: rest => (minutes? rest).map fun count => some (.minutes count)
  | '-' :: rest => (minutes? rest).map fun count => some (.minutes (-(count : Int)))
  | _ => none

/-- The time behind a date, with its offset. -/
def timeOf? (date : Date) (text : List Char) : Option DateTime := do
  let (time, rest) ← time? text
  let offset ← offset? rest
  some ⟨some date, some time, offset⟩

/-- The date-time that a text stands for. -/
def ofChars? (text : List Char) : Option DateTime :=
  match date? text with
  | some (date, []) => some ⟨some date, none, none⟩
  | some (date, 'T' :: rest) => timeOf? date rest
  | some (date, 't' :: rest) => timeOf? date rest
  | some (date, ' ' :: rest) => timeOf? date rest
  | some _ => none
  | none =>
      match time? text with
      | some (time, []) => some ⟨none, some time, none⟩
      | _ => none

/-! ## Writing -/

/-- A number with leading zeros, at least `width` digits long. -/
def padded (width number : Nat) : String :=
  let digits := toString number
  String.ofList (List.replicate (width - digits.length) '0') ++ digits

/-- The normal form of a date. -/
def dateText (date : Date) : String :=
  padded 4 date.year ++ "-" ++ padded 2 date.month ++ "-" ++ padded 2 date.day

/-- The digits behind the point, without trailing zeros. -/
def fractionText (nanosecond : Nat) : String :=
  if nanosecond = 0 then ""
  else
    let digits := (padded 9 nanosecond).toList
    "." ++ String.ofList (digits.reverse.dropWhile (· == '0')).reverse

/-- The normal form of a time of day. -/
def timeText (time : Time) : String :=
  padded 2 time.hour ++ ":" ++ padded 2 time.minute ++ ":" ++ padded 2 time.second ++
    fractionText time.nanosecond

/-- The normal form of an offset. -/
def offsetText : Offset → String
  | .universal => "Z"
  | .minutes count =>
      let size := count.natAbs
      (if count < 0 then "-" else "+") ++ padded 2 (size / 60) ++ ":" ++ padded 2 (size % 60)

/-- The normal form of a date-time. -/
def text (moment : DateTime) : String :=
  let date := (moment.date.map dateText).getD ""
  let time := (moment.time.map timeText).getD ""
  let separator := if moment.date.isSome && moment.time.isSome then "T" else ""
  date ++ separator ++ time ++ (moment.offset.map offsetText).getD ""

/-- Reading a normal form and writing it again. -/
example :
    (ofChars? "1979-05-27 07:32:00.250-00:30".toList).map text =
      some "1979-05-27T07:32:00.25-00:30" := by
  decide +kernel

/-- A day that its month does not have. -/
example : ofChars? "2023-02-29".toList = none := by
  decide +kernel

end DateTime

end CppModel.Toml
