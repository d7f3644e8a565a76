import QueryGateway.Toml.Lexical

/-!
# Dates and times

A date, a time of day, or both with an optional offset. The normal form
separates date and time by `T`, writes the offset `Z` in upper case, and drops
trailing zeros of the fraction of a second, of which nine digits count.
-/

namespace QueryGateway.Toml

/-- The value of exactly two digits between `lo` and `hi`. -/
def readTwo? (lo hi : Nat) : List Char → Option (Nat × List Char)
  | a :: b :: rest =>
    if Text.isAsciiDigit a && Text.isAsciiDigit b then
      let n := Number.ofDigits [a, b]
      if lo ≤ n && n ≤ hi then some (n, rest) else none
    else none
  | _ => none

/-- The value of the next four digits. -/
def readYear? (s : List Char) : Option (Nat × List Char) :=
  let digits := s.take 4
  if digits.length == 4 && digits.all Text.isAsciiDigit then
    some (Number.ofDigits digits, s.drop 4)
  else none

/-- The number of days of a month. -/
def daysIn (year month : Nat) : Nat :=
  if month == 2 then
    if year % 4 == 0 && (year % 100 != 0 || year % 400 == 0) then 29 else 28
  else if [4, 6, 9, 11].contains month then 30
  else 31

/-- The decimal digits of a number, with leading zeros up to a width. -/
def padded (width n : Nat) : List Char :=
  let digits := Nat.toDigits 10 n
  List.replicate (width - digits.length) '0' ++ digits

/-- The text after the given character. -/
def expect? (c : Char) : List Char → Option (List Char)
  | d :: rest => if d == c then some rest else none
  | [] => none

/-- A full date in normal form. -/
def readDate? (s : List Char) : Option (List Char × List Char) := do
  let (year, s) ← readYear? s
  let (month, s) ← readTwo? 1 12 (← expect? '-' s)
  let (day, s) ← readTwo? 1 (daysIn year month) (← expect? '-' s)
  some (padded 4 year ++ '-' :: padded 2 month ++ '-' :: padded 2 day, s)

/-- The fraction of a second in normal form, if one stands next. -/
def readFraction (s : List Char) : List Char × List Char :=
  match s with
  | '.' :: rest =>
    let digits := rest.takeWhile Text.isAsciiDigit
    if digits.isEmpty then ([], s)
    else
      let kept := ((digits.take 9).reverse.dropWhile (· == '0')).reverse
      (if kept.isEmpty then [] else '.' :: kept, rest.drop digits.length)
  | _ => ([], s)

/-- The part of a time of day after the hour and its colon. -/
def readMinutes? (s : List Char) : Option (List Char × List Char) := do
  let (minute, s) ← readTwo? 0 59 s
  let (second, s) ← readTwo? 0 60 (← expect? ':' s)
  let (fraction, s) := readFraction s
  some (padded 2 minute ++ ':' :: padded 2 second ++ fraction, s)

/-- An hour and its colon. -/
def readHour? (s : List Char) : Option (Nat × List Char) := do
  let (hour, s) ← readTwo? 0 23 s
  some (hour, ← expect? ':' s)

/-- The offset in normal form, if one stands next. Nothing when it is malformed. -/
def readOffset? : List Char → Option (List Char × List Char)
  | 'Z' :: rest => some (['Z'], rest)
  | 'z' :: rest => some (['Z'], rest)
  | '+' :: rest => do
    let (hour, s) ← readHour? rest
    let (minute, s) ← readTwo? 0 59 s
    some ('+' :: padded 2 hour ++ ':' :: padded 2 minute, s)
  | '-' :: rest => do
    let (hour, s) ← readHour? rest
    let (minute, s) ← readTwo? 0 59 s
    let sign := if hour == 0 && minute == 0 then '+' else '-'
    some (sign :: padded 2 hour ++ ':' :: padded 2 minute, s)
  | s => some ([], s)

/-- What the front of a value is, seen as a date or time. -/
inductive DateReading where
  | absent
  | malformed
  | found (text : List Char) (rest : List Char)

/-- The time of day that may follow a date. -/
def readTimeAfterDate (date : List Char) (s : List Char) : DateReading :=
  match s with
  | c :: rest =>
    if c == 'T' || c == 't' || c == ' ' then
      match readHour? rest with
      | none => .found date s
      | some (hour, rest) =>
        match readMinutes? rest with
        | none => .malformed
        | some (minutes, rest) =>
          match readOffset? rest with
          | none => .malformed
          | some (offset, rest) =>
            .found (date ++ 'T' :: padded 2 hour ++ ':' :: minutes ++ offset) rest
    else .found date s
  | [] => .found date []

/-- A date or time at the front of a value. Four digits and a hyphen, or an hour
and a colon, commit to one. -/
def readDateTime (s : List Char) : DateReading :=
  match readYear? s with
  | some (_, '-' :: _) =>
    match readDate? s with
    | none => .malformed
    | some (date, rest) => readTimeAfterDate date rest
  | _ =>
    match readHour? s with
    | none => .absent
    | some (hour, rest) =>
      match readMinutes? rest with
      | none => .malformed
      | some (minutes, rest) => .found (padded 2 hour ++ ':' :: minutes) rest

/-- The key under which a date or time stands in a tree. -/
def dateTimeKey : String := "$__toml_private_datetime"

/-- The tree of a date or time. -/
def dateTimeTree (text : List Char) : Tree :=
  .map [(dateTimeKey, .text (String.ofList text))]

end QueryGateway.Toml
