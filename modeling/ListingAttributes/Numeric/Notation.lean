import ListingAttributes.Numeric.Decimal

/-!
# Written numbers

How a selected decimal is laid out.  The decisions are fields of a `Style`; three styles are in
use, one for JSON text, one for messages and keys, one for TOML text.
-/

namespace ListingAttributes.Numeric

/-- The decisions of a written form. -/
structure Style where
  /-- The exponents of the leading digit that are written positionally, from the first up to but
  not including the second; all of them if there is no such range. -/
  positional : Option (Int × Int)
  /-- Whether a whole number ends in `.0`. -/
  pointZero : Bool
  /-- Which of two equally near decimals is taken. -/
  tie : TieRule
  deriving DecidableEq, Repr

/-- JSON text: positional from `0.00001` to below ten to the sixteenth, always with a fractional
digit, and otherwise one digit before the point and a signed exponent. -/
def jsonStyle : Style := ⟨some (-5, 16), true, .toEven⟩

/-- Messages and keys: always positional, and no point in a whole number. -/
def plainStyle : Style := ⟨none, false, .upward⟩

/-- TOML text: always positional, with a fractional digit. -/
def tomlStyle : Style := ⟨none, true, .upward⟩

/-- The decimal digits of a natural number. -/
def digitsOf (n : Nat) : List Char := Nat.toDigits 10 n

/-- A decimal written with a point and no exponent. -/
def positionalText (pointZero : Bool) (d : Decimal) : List Char :=
  let digits := digitsOf d.digits
  if 0 ≤ d.exponent then
    digits ++ List.replicate d.exponent.toNat '0' ++ (if pointZero then ['.', '0'] else [])
  else
    let places := (-d.exponent).toNat
    if places < digits.length then
      digits.take (digits.length - places) ++ '.' :: digits.drop (digits.length - places)
    else '0' :: '.' :: List.replicate (places - digits.length) '0' ++ digits

/-- A decimal written with one digit before the point and a signed exponent. -/
def scientificText (d : Decimal) : List Char :=
  let digits := digitsOf d.digits
  let leading := d.exponent + digits.length - 1
  let mantissa :=
    match digits with
    | first :: second :: rest => first :: '.' :: second :: rest
    | short => short
  mantissa ++ 'e' :: (if leading < 0 then '-' else '+') :: digitsOf leading.natAbs

/-- A decimal in a style. -/
def Style.decimalText (style : Style) (d : Decimal) : List Char :=
  let leading := d.exponent + d.length - 1
  match style.positional with
  | some (first, past) =>
    if d.digits = 0 ∨ (first ≤ leading ∧ leading < past) then positionalText style.pointZero d
    else scientificText d
  | none => positionalText style.pointZero d

/-- A number in a style: its sign, then its shortest decimal. -/
def Binary.text {F : Format} (style : Style) (x : Binary F) : List Char :=
  (if x.negative then ['-'] else []) ++ style.decimalText (x.shortest style.tie)

/-- Any value in the plain style. -/
def Extended.plainText {F : Format} : Extended F → List Char
  | .finite x => x.text plainStyle
  | .infinite false => ['i', 'n', 'f']
  | .infinite true => ['-', 'i', 'n', 'f']
  | .notANumber => ['N', 'a', 'N']

/-- Any value in the TOML style. -/
def Extended.tomlText {F : Format} : Extended F → List Char
  | .finite x => x.text tomlStyle
  | .infinite false => ['i', 'n', 'f']
  | .infinite true => ['-', 'i', 'n', 'f']
  | .notANumber => ['n', 'a', 'n']

end ListingAttributes.Numeric
