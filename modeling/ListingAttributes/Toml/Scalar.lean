import ListingAttributes.Numeric.Reading
import ListingAttributes.Json.Document
import ListingAttributes.Toml.Value

/-!
# TOML numbers, truth values and dates

A digit may be separated from the next by an underscore.  Integers have 64 bits and a sign, and
may be written to the base sixteen, eight or two; floats are written in decimal notation, and one
that is too large is an error.  Of a date or a time only the form is checked, and that the date
exists.

Every reader returns the value at the start of a text and what follows it.
-/

namespace ListingAttributes.Toml

open Text Numeric

/-! ## Digits -/

/-- The digits at the start of a text, underscores between them left out, and what follows. -/
def readDigits (isDigit : Char → Bool) : List Char → Option (List Char × List Char)
  | [] => none
  | [c] => if isDigit c then some ([c], []) else none
  | c :: '_' :: rest =>
    if isDigit c then
      match readDigits isDigit rest with
      | some (digits, rest) => some (c :: digits, rest)
      | none => some ([c], '_' :: rest)
    else none
  | c :: rest =>
    if isDigit c then
      match readDigits isDigit rest with
      | some (digits, rest) => some (c :: digits, rest)
      | none => some ([c], rest)
    else none

/-- Exactly `count` digits at the start of a text, as a number, and what follows. -/
def readFixed (count : Nat) (text : List Char) : Option (Nat × List Char) :=
  let digits := text.take count
  if digits.length = count ∧ digits.all isAsciiDigit then
    some (decimalValue digits, text.drop count)
  else none

/-! ## Numbers -/

/-- A sign at the start of a text, and what follows it. -/
def readSign : List Char → Bool × List Char
  | '-' :: text => (true, text)
  | '+' :: text => (false, text)
  | text => (false, text)

/-- The whole digits of a decimal number: a zero, or digits that start with none. -/
def readWhole : List Char → Option (List Char × List Char)
  | '0' :: text => some (['0'], text)
  | text => readDigits isAsciiDigit text

/-- A point and the digits behind it, if there is a point. -/
def readFraction : List Char → Option (List Char × List Char)
  | '.' :: text => (readDigits isAsciiDigit text).map fun (digits, rest) => ('.' :: digits, rest)
  | text => some ([], text)

/-- The letter of an exponent and what stands behind it, if there is that letter. -/
def readExponent : List Char → Option (List Char × List Char)
  | c :: text =>
    if c = 'e' ∨ c = 'E' then
      let (negative, text) := readSign text
      (readDigits isAsciiDigit text).map fun (digits, rest) =>
        ('e' :: (if negative then '-' :: digits else digits), rest)
    else some ([], c :: text)
  | [] => some ([], [])

/-- An integer, if it fits 64 bits with a sign. -/
def integer? (i : Int) : Option Toml :=
  if -9223372036854775808 ≤ i ∧ i < 9223372036854775808 then some (.integer i) else none

/-- The number that digits write to a base. -/
def valueInBase (base : Nat) (digits : List Char) : Nat :=
  digits.foldl (fun value c => base * value + (Json.hexValue? c).getD 0) 0

/-- Whether a character is a digit to a base. -/
def isDigitOf (base : Nat) (c : Char) : Bool :=
  match Json.hexValue? c with
  | some value => value < base
  | none => false

/-- Reads the digits of an integer to a base. -/
def readInBase (base : Nat) (text : List Char) : Option (Toml × List Char) := do
  let (digits, rest) ← readDigits (isDigitOf base) text
  return (← integer? (valueInBase base digits), rest)

/-- A float, unless it is positive and too large. -/
def float? (text : List Char) : Option Toml :=
  match (Extended.ofText? text : Option (Extended binary64)) with
  | some (.infinite false) => none
  | some x => some (.float x)
  | none => none

/-- Reads a number in decimal notation: a float if it has a point or an exponent. -/
def readDecimal (text : List Char) : Option (Toml × List Char) := do
  let (negative, text) := readSign text
  let (whole, rest) ← readWhole text
  let (fraction, rest) ← readFraction rest
  let (exponent, rest) ← readExponent rest
  if fraction = [] ∧ exponent = [] then
    let magnitude : Int := decimalValue whole
    return (← integer? (if negative then -magnitude else magnitude), rest)
  else
    let digits := whole ++ fraction ++ exponent
    return (← float? (if negative then '-' :: digits else digits), rest)

/-- Reads one of the two words for what is no finite number. -/
def readSpecial (negative : Bool) : List Char → Option (Toml × List Char)
  | 'i' :: 'n' :: 'f' :: rest => some (.float (.infinite negative), rest)
  | 'n' :: 'a' :: 'n' :: rest => some (.float .notANumber, rest)
  | _ => none

/-! ## Dates and times -/

/-- How many days a month has. -/
def daysOfMonth (year month : Nat) : Nat :=
  if month = 2 then
    if year % 4 = 0 ∧ (year % 100 ≠ 0 ∨ year % 400 = 0) then 29 else 28
  else if month = 4 ∨ month = 6 ∨ month = 9 ∨ month = 11 then 30
  else 31

/-- Passes over a date that exists. -/
def afterDate? (text : List Char) : Option (List Char) := do
  let (year, text) ← readFixed 4 text
  let '-' :: text := text | none
  let (month, text) ← readFixed 2 text
  let '-' :: text := text | none
  let (day, text) ← readFixed 2 text
  if 1 ≤ month ∧ month ≤ 12 ∧ 1 ≤ day ∧ day ≤ daysOfMonth year month then some text else none

/-- Passes over the fraction of a second, if there is one. -/
def afterSecondFraction? : List Char → Option (List Char)
  | '.' :: text =>
    match leadingDigits text with
    | ([], _) => none
    | (_, rest) => some rest
  | text => some text

/-- Passes over a time of day. -/
def afterTime? (text : List Char) : Option (List Char) := do
  let (hour, text) ← readFixed 2 text
  let ':' :: text := text | none
  let (minute, text) ← readFixed 2 text
  let ':' :: text := text | none
  let (second, text) ← readFixed 2 text
  let text ← afterSecondFraction? text
  if hour ≤ 23 ∧ minute ≤ 59 ∧ second ≤ 60 then some text else none

/-- Passes over the hours and minutes that a time is ahead of or behind universal time. -/
def afterOffsetDigits? (text : List Char) : Option (List Char) := do
  let (hour, text) ← readFixed 2 text
  let ':' :: text := text | none
  let (minute, text) ← readFixed 2 text
  if hour ≤ 23 ∧ minute ≤ 59 then some text else none

/-- Passes over an offset, if there is one. -/
def afterOffset? : List Char → Option (List Char)
  | 'Z' :: text => some text
  | 'z' :: text => some text
  | '+' :: text => afterOffsetDigits? text
  | '-' :: text => afterOffsetDigits? text
  | text => some text

/-- Whether a text starts like a time of day, with two digits and a colon. -/
def startsTime : List Char → Bool
  | a :: b :: ':' :: _ => isAsciiDigit a && isAsciiDigit b
  | _ => false

/-- Whether a text starts like a date, with four digits and a hyphen. -/
def startsDate : List Char → Bool
  | a :: b :: c :: d :: '-' :: _ =>
    isAsciiDigit a && isAsciiDigit b && isAsciiDigit c && isAsciiDigit d
  | _ => false

/-- Passes over a date and the time that may follow it. -/
def afterDateTime? (text : List Char) : Option (List Char) := do
  let text ← afterDate? text
  match text with
  | c :: rest =>
    if (c = 'T' ∨ c = 't' ∨ c = ' ') ∧ startsTime rest then
      let rest ← afterTime? rest
      afterOffset? rest
    else some text
  | [] => some text

/-! ## Scalars -/

/-- Reads a value that starts with a sign or a digit. -/
def readNumeric (text : List Char) : Option (Toml × List Char) :=
  if startsDate text then (afterDateTime? text).map (.dateTime, ·)
  else if startsTime text then (afterTime? text).map (.dateTime, ·)
  else
    match text with
    | '0' :: 'x' :: digits => readInBase 16 digits
    | '0' :: 'o' :: digits => readInBase 8 digits
    | '0' :: 'b' :: digits => readInBase 2 digits
    | text =>
      match readDecimal text with
      | some number => some number
      | none => readSpecial (readSign text).1 (readSign text).2

/-- Reads a number, a truth value or a date. -/
def readScalar : List Char → Option (Toml × List Char)
  | 't' :: 'r' :: 'u' :: 'e' :: rest => some (.boolean true, rest)
  | 'f' :: 'a' :: 'l' :: 's' :: 'e' :: rest => some (.boolean false, rest)
  | c :: rest =>
    if isAsciiDigit c ∨ c = '+' ∨ c = '-' then readNumeric (c :: rest)
    else readSpecial false (c :: rest)
  | [] => none

end ListingAttributes.Toml
