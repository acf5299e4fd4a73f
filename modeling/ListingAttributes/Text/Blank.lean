import ListingAttributes.Text.Ranges

/-!
# Blank characters and trimming

A character is blank if it has the Unicode property White_Space: 25 characters, among them the
no-break space and the ideographic space, but not the zero-width ones.  Trimming takes blanks
off the ends of a text and leaves the rest as it is.
-/

namespace ListingAttributes.Text

/-- The characters with the property White_Space. -/
def blankRanges : CodeRanges :=
  [(0x09, 0x0D), (0x20, 0x20), (0x85, 0x85), (0xA0, 0xA0), (0x1680, 0x1680), (0x2000, 0x200A),
   (0x2028, 0x2029), (0x202F, 0x202F), (0x205F, 0x205F), (0x3000, 0x3000)]

/-- Whether a character is blank. -/
def isBlank (c : Char) : Bool := blankRanges.covers c.toNat

/-- A text without the blanks it starts with. -/
def trimStart (text : List Char) : List Char := text.dropWhile isBlank

/-- A text without the blanks it ends with. -/
def trimEnd : List Char → List Char
  | [] => []
  | c :: rest =>
    match trimEnd rest with
    | [] => if isBlank c then [] else [c]
    | kept => c :: kept

/-- A text without the blanks at either end. -/
def trim (text : List Char) : List Char := trimEnd (trimStart text)

/-- Whether nothing but blanks stands in a text. -/
def isBlankText (text : List Char) : Bool := text.all isBlank

end ListingAttributes.Text
