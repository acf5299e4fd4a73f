import ListingAttributes.Numeric.Binary

/-!
# TOML values

The values that a TOML text can state.  Tables list their entries; no key occurs twice in a table
that was read from a text.
-/

namespace ListingAttributes

/-- A TOML value. -/
inductive Toml where
  | string (text : String)
  | integer (value : Int)
  | float (value : Numeric.Extended Numeric.binary64)
  | boolean (value : Bool)
  /-- A date, a time or both.  No setting holds one, so only its form matters. -/
  | dateTime
  | array (items : List Toml)
  | table (entries : List (String × Toml))

namespace Toml

/-- A table, by its entries. -/
abbrev Table := List (String × Toml)

end Toml

end ListingAttributes
