import ListingAttributes.Record
import ListingAttributes.Text.Blank

/-!
# Replies of a backend

A backend is asked for one JSON object.  Some wrap it in a code block; a fence of three backticks
at the start, the rest of its line, and a fence at the end are taken off before the object is
read.  On a block of one line only the letters behind the opening fence are taken for its tag.
-/

namespace ListingAttributes.Reply

/-- Why a reply holds no record. -/
inductive ReplyError where
  /-- There is nothing between the fences. -/
  | emptyBlock
  /-- The text is no record. -/
  | record (error : RecordError)
  deriving DecidableEq, Repr

/-- The message of an error. -/
def ReplyError.message : ReplyError → String
  | emptyBlock => "Empty code block"
  | record error => error.message

/-- Three backticks. -/
def fence : List Char := ['\x60', '\x60', '\x60']

/-- Whether a character is an ASCII letter. -/
def isTagChar (c : Char) : Bool := c.isAlpha

/-- What follows the first line end of a text. -/
def afterLine? : List Char → Option (List Char)
  | [] => none
  | c :: text => if c = '\n' then some text else afterLine? text

/-- A text without the fence it ends with, if it does. -/
def dropClosingFence (text : List Char) : List Char :=
  if fence.isSuffixOf text then text.take (text.length - fence.length) else text

/-- What stands in a block that starts with a fence. -/
def blockBody (block : List Char) : List Char :=
  let body :=
    match afterLine? block with
    | some body => body
    | none => (block.drop fence.length).dropWhile isTagChar
  Text.trim (dropClosingFence (Text.trimEnd body))

/-- The JSON text of a reply; nothing if the reply is an empty block. -/
def payload? (reply : List Char) : Option (List Char) :=
  let text := Text.trim reply
  if fence.isPrefixOf text then
    let body := blockBody text
    if body = [] then none else some body
  else some text

/-- The record of a reply. -/
def parse (reply : List Char) : Except ReplyError Record :=
  match payload? reply with
  | none => .error .emptyBlock
  | some payload =>
    match Record.ofText payload with
    | .ok record => .ok record
    | .error error => .error (.record error)

end ListingAttributes.Reply
