import ListingAttributes.Json.Members

/-!
# Fields of a structure

A structure in a text is a list of fields, each a name and what is written there.  A field is read
by a reader of its own: a required one must be there, an optional one may be missing, and what is
there must be readable in either case.
-/

namespace ListingAttributes.Fields

variable {δ α : Type}

/-- The value of a field that must be there. -/
def required (read? : δ → Option α) (name : String) (fields : List (String × δ)) : Option α :=
  (Json.lookup name fields).bind read?

/-- The value of a field that may be missing. -/
def optional (read? : δ → Option α) (name : String) (fields : List (String × δ)) :
    Option (Option α) :=
  match Json.lookup name fields with
  | none => some none
  | some written => (read? written).map some

/-- The value of a field that has a default. -/
def withDefault (read? : δ → Option α) (default : α) (name : String)
    (fields : List (String × δ)) : Option α :=
  (optional read? name fields).map fun value => value.getD default

end ListingAttributes.Fields
