import RemoteCall.Text.Utf8

/-!
# Values of header fields

A header field holds bytes.  Text written into one is cleaned first: controls other than the tab
become spaces and characters beyond ASCII become question marks, so that what was written can
always be read back.  A value that arrived from elsewhere may hold bytes that do not read as text.
-/

namespace RemoteCall

structure FieldValue where
  bytes : Bytes
  deriving DecidableEq, Repr

namespace FieldValue

def empty : FieldValue := ⟨[]⟩

/-- Bytes that may stand in a header field. -/
def isAllowed (byte : UInt8) : Bool := byte == 0x09 || (0x20 ≤ byte && byte != 0x7F)

def isVisible (byte : UInt8) : Bool := byte == 0x09 || (0x20 ≤ byte && byte ≤ 0x7E)

/-- The character that is written for a character (in `to_header_value`). -/
def clean (character : Char) : Char :=
  if character = '\t' then character
  else if character.toNat < 0x20 ∨ character.toNat = 0x7F then ' '
  else if 0x7F < character.toNat then '?'
  else character

def cleaned (text : String) : String := String.ofList (text.toList.map clean)

/-- The value with exactly these bytes, if all of them may stand in a header field. -/
def ofBytes? (bytes : Bytes) : Option FieldValue :=
  if bytes.all isAllowed then some ⟨bytes⟩ else none

/-- The value that is written for a text (`to_header_value`). -/
def ofText (text : String) : FieldValue :=
  (ofBytes? (Text.encodeUtf8 (cleaned text))).getD empty

/-- The text of a value all of whose bytes read as text. -/
def text? (value : FieldValue) : Option String :=
  if value.bytes.all isVisible then
    some (String.ofList (value.bytes.map fun byte => Char.ofNat byte.toNat))
  else none

end FieldValue
end RemoteCall
