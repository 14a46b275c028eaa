import DataModel.Text.Blank
import DataModel.Text.Numeral

/-! Reading dates of the Gregorian calendar, times of the day and moments. White space may stand before every
number of a date or a time; a moment with an offset is strict. -/

namespace DataModel.Calendar

/-- Whether a year has a 29th of February. -/
def isLeap (year : Int) : Bool :=
  year % 4 = 0 && (year % 100 ≠ 0 || year % 400 = 0)

/-- The number of days of a month, none for numbers that are no month. -/
def daysIn (year : Int) (month : Nat) : Nat :=
  match month with
  | 1 | 3 | 5 | 7 | 8 | 10 | 12 => 31
  | 4 | 6 | 9 | 11 => 30
  | 2 => if isLeap year then 29 else 28
  | _ => 0

/-- The first year of the calendar. -/
def firstYear : Int :=
  -262143

/-- The last year of the calendar. -/
def lastYear : Int :=
  262142

/-- Whether the calendar has the date. -/
def isDateOf (year : Int) (month day : Nat) : Bool :=
  firstYear ≤ year && year ≤ lastYear && 1 ≤ day && day ≤ daysIn year month

/-- Whether the day has the time. A minute may have a leap second. -/
def isTimeOf (hour minute second : Nat) : Bool :=
  hour < 24 && minute < 60 && second ≤ 60

/-- The number of the digits in front, at least `least` and at most `most` of them, and the rest. -/
def digits? (least most : Nat) (cs : List Char) : Option (Nat × List Char) :=
  let ds := (cs.take most).takeWhile Char.isDigit
  if ds.length < least then none
  else (Numeral.natural? ds).map fun n => (n, cs.drop ds.length)

/-- A number of one or two digits, after white space. -/
def short? (cs : List Char) : Option (Nat × List Char) :=
  digits? 1 2 (Blank.dropLeading cs)

/-- A year, after white space: up to four digits, or any number of them after a sign. -/
def year? (cs : List Char) : Option (Int × List Char) :=
  match Blank.dropLeading cs with
  | '-' :: cs => (digits? 1 cs.length cs).map fun (n, rest) => (-(n : Int), rest)
  | '+' :: cs => (digits? 1 cs.length cs).map fun (n, rest) => ((n : Int), rest)
  | cs => (digits? 1 4 cs).map fun (n, rest) => ((n : Int), rest)

/-- The rest of a text that starts with a character. -/
def mark? (mark : Char) : List Char → Option (List Char)
  | c :: cs => if c = mark then some cs else none
  | [] => none

/-- The rest of a text after a date of the calendar. -/
def date? (cs : List Char) : Option (List Char) := do
  let (year, cs) ← year? cs
  let (month, cs) ← short? (← mark? '-' cs)
  let (day, cs) ← short? (← mark? '-' cs)
  if isDateOf year month day then some cs else none

/-- The rest of a text after a time with seconds. -/
def time? (cs : List Char) : Option (List Char) := do
  let (hour, cs) ← short? cs
  let (minute, cs) ← short? (← mark? ':' cs)
  let (second, cs) ← short? (← mark? ':' cs)
  if isTimeOf hour minute second then some cs else none

/-- The rest of a text after a time without seconds. -/
def shortTime? (cs : List Char) : Option (List Char) := do
  let (hour, cs) ← short? cs
  let (minute, cs) ← short? (← mark? ':' cs)
  if isTimeOf hour minute 0 then some cs else none

/-- The rest of a text after a fraction of a second, if there is one. -/
def fraction? : List Char → Option (List Char)
  | '.' :: cs => (digits? 1 cs.length cs).map Prod.snd
  | cs => some cs

/-- The rest of a text after an offset: `Z`, or a sign with hours below 24 and minutes. -/
def offset? : List Char → Option (List Char)
  | 'Z' :: cs | 'z' :: cs => some cs
  | c :: cs =>
    if c = '+' ∨ c = '-' ∨ c = '−' then do
      let (hours, cs) ← digits? 2 2 cs
      let (minutes, cs) ← digits? 2 2 (← mark? ':' cs)
      if hours < 24 ∧ minutes < 60 then some cs else none
    else none
  | [] => none

/-- The rest of a text after a moment with an offset, every number with all its digits. -/
def offsetMoment? (cs : List Char) : Option (List Char) := do
  let (year, cs) ← digits? 4 4 cs
  let (month, cs) ← digits? 2 2 (← mark? '-' cs)
  let (day, cs) ← digits? 2 2 (← mark? '-' cs)
  let cs ← mark? 'T' cs <|> mark? 't' cs <|> mark? ' ' cs
  let (hour, cs) ← digits? 2 2 cs
  let (minute, cs) ← digits? 2 2 (← mark? ':' cs)
  let (second, cs) ← digits? 2 2 (← mark? ':' cs)
  let cs ← offset? (← fraction? cs)
  if isDateOf year month day ∧ isTimeOf hour minute second then some cs else none

/-- The rest of a text after a date, blanks and a time. -/
def blankMoment? (cs : List Char) : Option (List Char) := do
  time? (← date? cs)

/-- The rest of a text after a date, a `T`, a time and possibly a fraction. -/
def plainMoment? (cs : List Char) : Option (List Char) := do
  fraction? (← time? (← mark? 'T' (← date? cs)))

/-- Whether a reader takes a whole text. -/
def takesAll (read? : List Char → Option (List Char)) (s : String) : Bool :=
  read? s.toList = some []

/-- Whether a text is a date. -/
def isDate (s : String) : Bool :=
  takesAll date? s

/-- Whether a text is a time of the day. -/
def isTime (s : String) : Bool :=
  takesAll time? s || takesAll shortTime? s

/-- Whether a text is a moment. -/
def isMoment (s : String) : Bool :=
  takesAll offsetMoment? s || takesAll blankMoment? s || takesAll plainMoment? s

end DataModel.Calendar
