import ListingAttributes.Record
import ListingAttributes.Text.LowerCase

/-!
# Product keys

A product key names "the same product" within a category: the identifying attributes of a record,
joined with colons.  Keys are compared for equality and never read back.

* `ram:generation:subtype:capacity gb:speed`
* `drive:interface:form factor:capacity:subtype`
* `server:manufacturer:model:drive form factor`
* `cpu:manufacturer:family:model`
* `nic:speed:ports p:port type`
* `other:category` for every other category

A key exists for every record: a text that is missing, empty or no string is `unknown`, and a
missing number is zero.
-/

namespace ListingAttributes.ProductKey

open Numeric

/-- What stands for a text that a record does not state. -/
def unknown : List Char := ['u', 'n', 'k', 'n', 'o', 'w', 'n']

/-- A text in lower case, with underscores for spaces. -/
def folded (text : List Char) : List Char :=
  (Text.lower text).map fun c => if c = ' ' then '_' else c

/-- The component of a text field. -/
def token (record : Record) (field : String) : List Char :=
  match record.str? field with
  | some text => if text.toList = [] then unknown else folded text.toList
  | none => unknown

/-- The component of a number: an integer for a small whole number, plain notation otherwise. -/
def numberText (x : Binary binary64) : List Char :=
  if Json.isSmallWhole x then Json.intText x.truncate else x.text plainStyle

/-- The component of a number field. -/
def number (record : Record) (field : String) : List Char :=
  match record.number? field with
  | some x => numberText x
  | none => ['0']

/-- What kind of memory module a record describes. -/
def ramSubtype (record : Record) : List Char :=
  match record.bool? "ecc", record.bool? "registered" with
  | some true, some true => "ecc_reg".toList
  | some true, _ => "ecc_unbuf".toList
  | some false, _ => "non_ecc".toList
  | none, _ => unknown

/-- What kind of drive a record describes: solid state, or a hard disk by its rotation rate. -/
def driveSubtype (record : Record) : List Char :=
  match record.str? "type" with
  | none => unknown
  | some kind =>
    if Text.sameButAsciiCase kind.toList ['S', 'S', 'D'] then "ssd".toList
    else
      match (record.number? "rpm").map Binary.truncate with
      | some 7200 => "7k2".toList
      | some 10000 => "10k".toList
      | some 15000 => "15k".toList
      | _ => "hdd".toList

/-- Components joined with colons. -/
def joined : List (List Char) → List Char
  | [] => []
  | [component] => component
  | component :: components => component ++ ':' :: joined components

/-- The components of the key of a record under a category name. -/
def components (category : String) (record : Record) : List (List Char) :=
  match category with
  | "ram" =>
    ["ram".toList, token record "generation", ramSubtype record,
      number record "capacity_gb" ++ "gb".toList, number record "speed_mhz"]
  | "drive" =>
    ["drive".toList, token record "interface", token record "form_factor",
      token record "capacity", driveSubtype record]
  | "server" =>
    ["server".toList, token record "manufacturer", token record "model",
      token record "drive_form_factor"]
  | "cpu" =>
    ["cpu".toList, token record "manufacturer", token record "family", token record "model"]
  | "nic" =>
    ["nic".toList, token record "speed", number record "port_count" ++ ['p'],
      token record "port_type"]
  | category => ["other".toList, category.toList]

end ListingAttributes.ProductKey

namespace ListingAttributes

/-- The product key of a record under a category name. -/
def productKey (category : String) (record : Record) : String :=
  String.ofList (ProductKey.joined (ProductKey.components category record))

end ListingAttributes
