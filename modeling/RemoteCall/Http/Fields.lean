import RemoteCall.Http.FieldValue
import RemoteCall.Pairs
import RemoteCall.Protocol.Header
import RemoteCall.Text.Lowercase

/-!
# Header fields

A message carries header fields.  A name may occur several times; writing a name replaces all its
values, appending keeps them, and reading a name gives the value that came first.
-/

namespace RemoteCall

/-- The name of a header field, in lower case. -/
structure FieldName where
  lower : String
  deriving DecidableEq, Repr

def FieldName.ofText (text : String) : FieldName := ⟨Text.lowercaseAscii text⟩

/-- The field that a header of the protocol is (`RpcMessageHeader::header_name`). -/
def Header.fieldName (header : Header) : FieldName := ⟨header.wireName⟩

/-- The header fields of a message, in the order in which they came. -/
structure Fields where
  entries : List (FieldName × FieldValue)
  deriving DecidableEq, Repr

namespace Fields

def empty : Fields := ⟨[]⟩

def find? (fields : Fields) (name : FieldName) : Option FieldValue := fields.entries.lookup name

def contains (fields : Fields) (name : FieldName) : Bool := (fields.find? name).isSome

/-- Adds a value after those a name already has. -/
def append (fields : Fields) (name : FieldName) (value : FieldValue) : Fields :=
  ⟨fields.entries ++ [(name, value)]⟩

def erase (fields : Fields) (name : FieldName) : Fields :=
  ⟨fields.entries.filter fun entry => entry.1 ≠ name⟩

/-- Replaces all values of a name by one. -/
def set (fields : Fields) (name : FieldName) (value : FieldValue) : Fields :=
  (fields.erase name).append name value

/-- The fields in the order of their names; values of one name keep their order. -/
def sorted (fields : Fields) : List (FieldName × FieldValue) :=
  fields.entries.mergeSort fun first second => first.1.lower ≤ second.1.lower

/-- The text of a header of the protocol, if it is there and reads as text
(`RpcHeaderMapExt::get_rpc`). -/
def read (fields : Fields) (header : Header) : Option String :=
  (fields.find? header.fieldName).bind FieldValue.text?

/-- Whether a header of the protocol is there, readable or not (`RpcHeaderMapExt::contains_rpc`). -/
def has (fields : Fields) (header : Header) : Bool := fields.contains header.fieldName

/-- Writes a header of the protocol in place of all its values (`RpcHeaderMapExt::set_rpc`). -/
def write (fields : Fields) (header : Header) (text : String) : Fields :=
  fields.set header.fieldName (FieldValue.ofText text)

/-- A further value counts only for a name that has none yet. -/
theorem find?_append (fields : Fields) (name other : FieldName) (value : FieldValue) :
    (fields.append name value).find? other =
      (fields.find? other).or (if other = name then some value else none) :=
  Pairs.lookup_concat fields.entries name other value

@[simp]
theorem find?_erase_self (fields : Fields) (name : FieldName) :
    (fields.erase name).find? name = none :=
  Pairs.lookup_drop_self name fields.entries

theorem find?_erase_of_ne (fields : Fields) {name other : FieldName} (differs : other ≠ name) :
    (fields.erase name).find? other = fields.find? other :=
  Pairs.lookup_drop_of_ne differs fields.entries

@[simp]
theorem find?_set_self (fields : Fields) (name : FieldName) (value : FieldValue) :
    (fields.set name value).find? name = some value := by
  simp [set, find?_append]

theorem find?_set_of_ne (fields : Fields) {name other : FieldName} (value : FieldValue)
    (differs : other ≠ name) : (fields.set name value).find? other = fields.find? other := by
  simp [set, find?_append, differs, find?_erase_of_ne]

end Fields
end RemoteCall
