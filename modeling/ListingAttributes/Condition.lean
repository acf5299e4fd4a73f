import ListingAttributes.Text.Blank
import ListingAttributes.Text.LowerCase

/-!
# Conditions of an item

Sellers describe the condition of an item in phrases of their own.  A record carries one of five
canonical conditions; a phrase that is not in the table leaves the condition unknown.
-/

namespace ListingAttributes

/-- The condition of a listed item. -/
inductive Condition where
  | new
  | likeNew
  | usedWorking
  | forParts
  | unknown
  deriving DecidableEq, Repr

namespace Condition

/-- The canonical name of a condition. -/
def name : Condition → String
  | new => "new"
  | likeNew => "like_new"
  | usedWorking => "used_working"
  | forParts => "for_parts"
  | unknown => "unknown"

/-- All conditions. -/
def all : List Condition := [new, likeNew, usedWorking, forParts, unknown]

/-- The condition with exactly this name. -/
def ofName? (text : String) : Option Condition := all.find? fun c => c.name == text

/-- The phrases with a known meaning, in lower case. -/
def phrases : List (String × Condition) :=
  [("new", new),
   ("brand new", new),
   ("new in box", new),
   ("nib", new),
   ("sealed", new),
   ("factory sealed", new),
   ("like_new", likeNew),
   ("like new", likeNew),
   ("open box", likeNew),
   ("new other (see details)", likeNew),
   ("manufacturer refurbished", likeNew),
   ("certified refurbished", likeNew),
   ("used_working", usedWorking),
   ("used", usedWorking),
   ("pre-owned", usedWorking),
   ("seller refurbished", usedWorking),
   ("refurbished", usedWorking),
   ("tested working", usedWorking),
   ("working", usedWorking),
   ("for_parts", forParts),
   ("for parts", forParts),
   ("for parts or not working", forParts),
   ("parts only", forParts),
   ("not working", forParts),
   ("as-is", forParts),
   ("unknown", unknown)]

/-- The condition that a phrase describes, blanks around it and case aside. -/
def ofPhrase (text : String) : Condition :=
  let key := String.ofList (Text.lower (Text.trim text.toList))
  match phrases.find? fun entry => entry.1 == key with
  | some entry => entry.2
  | none => unknown

end Condition

end ListingAttributes
