import ListingAttributes.Text.Blank
import ListingAttributes.Text.LowerCase
import ListingAttributes.Text.Quoted

/-!
# Categories of components

A listing is classified into one of six categories.  `other` is a possible classification that
has neither a prompt nor a schema of its own.
-/

namespace ListingAttributes

/-- What kind of component a listing offers. -/
inductive Category where
  | ram
  | drive
  | server
  | cpu
  | nic
  | other
  deriving DecidableEq, Repr

namespace Category

/-- All categories, in the order in which the classification prompt lists them. -/
def all : List Category := [ram, drive, server, cpu, nic, other]

/-- The name of a category. -/
def name : Category → String
  | ram => "ram"
  | drive => "drive"
  | server => "server"
  | cpu => "cpu"
  | nic => "nic"
  | other => "other"

/-- The category with exactly this name. -/
def ofName? (text : String) : Option Category := all.find? fun c => c.name == text

/-- The category that a text names, blanks around it and case aside. -/
def parse? (text : String) : Option Category :=
  ofName? (String.ofList (Text.lower (Text.trim text.toList)))

/-- Whether listings of a category can be extracted. -/
def isExtractable (c : Category) : Bool := c != other

/-- The message for a text that names no category. -/
def unknownMessage (text : String) : String :=
  "unknown component category: " ++ Text.quoted text

end Category

end ListingAttributes
