import ListingAttributes.Text.CaseTables

/-!
# Lower case

Full Unicode lower-casing of a text.  Every character is mapped on its own, with two exceptions
that a character-to-character mapping cannot express: the dotted capital I becomes two
characters, and a capital sigma has a form of its own at the end of a word.
-/

namespace ListingAttributes.Text

/-- Whether a character is cased (it is a letter with case, or behaves like one). -/
def isCased (c : Char) : Bool := casedRanges.covers c.toNat

/-- Whether word-final context looks through a character. -/
def isCaseIgnorable (c : Char) : Bool := caseIgnorableRanges.covers c.toNat

/-- The lower-case form of one character, sigma aside. -/
def lowerChar (c : Char) : List Char :=
  if c.toNat < 0x80 then [c.toLower]
  else if c = 'İ' then ['i', '\u0307']
  else
    match caseRuns.find? fun run => run.covers c.toNat with
    | some run => [Char.ofNat ((c.toNat : Int) + run.offset).toNat]
    | none => [c]

/-- Whether the first character that counts for case is a cased one. -/
def startsCased (text : List Char) : Bool :=
  match text.dropWhile isCaseIgnorable with
  | c :: _ => isCased c
  | [] => false

/-- Whether a capital sigma between two texts ends a word: a cased character comes before it and
none after it.  The text before is given nearest character first. -/
def endsWord (before after : List Char) : Bool := startsCased before && !startsCased after

/-- Lower-cases a text that follows `before`, given nearest character first. -/
def lowerAfter (before : List Char) : List Char → List Char
  | [] => []
  | c :: rest =>
    (if c = 'Σ' then [if endsWord before rest then 'ς' else 'σ'] else lowerChar c)
      ++ lowerAfter (c :: before) rest

/-- The lower-case form of a text. -/
def lower (text : List Char) : List Char := lowerAfter [] text

/-- Whether two texts differ at most in the case of ASCII letters. -/
def sameButAsciiCase (left right : List Char) : Bool :=
  left.map Char.toLower == right.map Char.toLower

end ListingAttributes.Text
