import ListingAttributes.Record
import ListingAttributes.Text.DecimalDigit

/-!
# Memory speeds in titles

A listing title often states the speed of a memory module in a code: the bandwidth of the module
(`PC4-21300`) or its data rate (`DDR4-2666`).  The leftmost place where a code of one kind can be
read decides; what stands further right is not looked at.  A bandwidth counts only if it is a
known rating, a data rate only within the plausible range, and a bandwidth goes before a data
rate.
-/

namespace ListingAttributes.MemorySpeed

open Text

/-- The known bandwidth ratings, in megabytes per second, with their data rates. -/
def ratings : List (Nat × Nat) :=
  [(8500, 1066), (10600, 1333), (12800, 1600), (14900, 1866), (17000, 2133), (19200, 2400),
   (21300, 2666), (23400, 2933), (25600, 3200), (38400, 4800), (44800, 5600)]

/-- The least plausible data rate. -/
def slowest : Nat := 800

/-- The greatest plausible data rate. -/
def fastest : Nat := 8400

/-- What comes behind a word at the start of a text, case of ASCII letters aside.  The word is
given in capitals. -/
def afterWord? : List Char → List Char → Option (List Char)
  | [], text => some text
  | _ :: _, [] => none
  | letter :: word, c :: text => if c.toUpper = letter then afterWord? word text else none

/-- What comes behind the number of a memory generation at the start of a text. -/
def afterGeneration? : List Char → Option (List Char)
  | c :: text => if c = '3' ∨ c = '4' ∨ c = '5' then some text else none
  | [] => none

/-- A text without the hyphen it starts with, if it does. -/
def dropHyphen : List Char → List Char
  | '-' :: text => text
  | text => text

/-- The digits of the bandwidth, if a text starts with a module code: five of them, or six. -/
def moduleCode? (text : List Char) : Option (List Char) := do
  let text ← afterWord? ['P', 'C'] text
  let text ← afterGeneration? text
  let digits := (dropHyphen text).takeWhile isDecimalDigit
  if 5 ≤ digits.length then some (digits.take 6) else none

/-- The digits of the data rate, if a text starts with a code of that kind: four of them. -/
def dataRateCode? (text : List Char) : Option (List Char) := do
  let text ← afterWord? ['D', 'D', 'R'] text
  match ← afterGeneration? text with
  | '-' :: text =>
    let digits := text.takeWhile isDecimalDigit
    if 4 ≤ digits.length then some (digits.take 4) else none
  | _ => none

/-- What a reader finds at the leftmost position of a text where it finds anything. -/
def leftmost? {α : Type} (read? : List Char → Option α) : List Char → Option α
  | [] => read? []
  | c :: text =>
    match read? (c :: text) with
    | some found => some found
    | none => leftmost? read? text

/-- The number that digits denote, if they are all ASCII digits. -/
def numberOf? (digits : List Char) : Option Nat :=
  if digits.all isAsciiDigit then some (decimalValue digits) else none

/-- The data rate of the first module code of a text. -/
def ofModuleCode? (text : List Char) : Option Nat := do
  let digits ← leftmost? moduleCode? text
  let bandwidth ← numberOf? digits
  let rating ← ratings.find? fun rating => rating.1 == bandwidth
  return rating.2

/-- The data rate that the first code of that kind states. -/
def ofDataRateCode? (text : List Char) : Option Nat := do
  let digits ← leftmost? dataRateCode? text
  let rate ← numberOf? digits
  if slowest ≤ rate ∧ rate ≤ fastest then some rate else none

/-- The data rate that a title states. -/
def ofTitle? (title : List Char) : Option Nat :=
  (ofModuleCode? title).orElse fun _ => ofDataRateCode? title

/-! ## Recovery -/

/-- The field that holds the data rate. -/
def field : String := "speed_mhz"

/-- Whether a record states a speed: a number other than zero. -/
def isStated (record : Record) : Bool :=
  match record.number? field with
  | some x => !x.isZero
  | none => false

/-- A data rate as an integer. -/
def integerOfRate (rate : Nat) : Json.Integer :=
  (Json.Integer.ofInt? rate).getD (.ofNat 0)

/-- The record with the speed of a title filled in, if it states none and the title has one. -/
def recovered? (title : List Char) (record : Record) : Option Record :=
  if isStated record then none
  else (ofTitle? title).map fun rate => record.insertInteger field (integerOfRate rate)

/-- The record with the speed of a title filled in where that is possible. -/
def recover (title : List Char) (record : Record) : Record :=
  (recovered? title record).getD record

end ListingAttributes.MemorySpeed
