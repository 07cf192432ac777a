import RemoteCall.Json.Number
import RemoteCall.Json.StringReader

/-!
# Reading JSON documents

A document is read in one pass, one byte at a time, by a machine whose state holds the arrays and
objects still open.  Each byte either moves the machine on or is refused, so reading a document is
a fold over its bytes and reading a concatenation continues where the first part ended.  A
document embedded in another one is read as soon as its text is complete, on its own and with
places counted from its own start.
-/

namespace RemoteCall
namespace Json

/-- An array or object that is still open. -/
inductive Container where
  /-- The items read so far, latest first. -/
  | array (items : List Value)
  /-- The members read so far and the key whose value comes next. -/
  | object (members : List (String × Value)) (key : String)
  /-- An object whose first key is the embedding key. -/
  | embedding

/-- What a word is made of after the bytes read so far, and the value it stands for. -/
structure PartialWord where
  rest : List UInt8
  value : Value

/-- What the machine is in the middle of. -/
inductive Expectation where
  /-- A value, at the start or after a comma or a colon. -/
  | value
  /-- The first item of an array, or its end. -/
  | firstItem
  /-- An item after a comma. -/
  | laterItem
  /-- The first key of an object, or its end. -/
  | firstKey
  /-- A key after a comma, with the members before it. -/
  | laterKey (members : List (String × Value))
  /-- The colon after a key, with the members before it. -/
  | colon (members : List (String × Value)) (key : String)
  /-- The rest of a key, with the members before it. -/
  | key (members : List (String × Value)) (text : PartialString)
  /-- The rest of a word. -/
  | word (word : PartialWord)
  /-- The rest of a number. -/
  | number (number : PartialNumber)
  /-- The rest of a string. -/
  | string (text : PartialString)
  /-- A comma or the end of the innermost array or object, whose latest value is given; at the
  outermost level the end of the document. -/
  | delimiter (value : Value)

/-- A document of which some bytes have been read. -/
structure Reading where
  /-- The open arrays and objects, innermost first. -/
  containers : List Container
  expectation : Expectation
  position : Position

/-- How a document embedded in another one is read, given its text. -/
abbrev EmbeddedReader := String → Except Fault Value

/-- How many arrays and objects may be open at once. -/
def depthLimit : Nat := 127

/-- Blanks that may stand between the parts of a document. -/
def isBlank (byte : UInt8) : Bool := byte == 0x20 || byte == 0x09 || byte == 0x0A || byte == 0x0D

namespace Reading

def start : Reading := ⟨[], .value, .start⟩

/-- Opens an array or object unless too many are open. -/
def enter (reading : Reading) (container : Container) (expectation : Expectation) :
    Except Fault Reading :=
  if reading.containers.length < depthLimit then
    .ok { reading with containers := container :: reading.containers, expectation := expectation }
  else .error ⟨.tooDeep, reading.position⟩

/-- A byte that starts a value; the position already counts it. -/
def beginValue (reading : Reading) (byte : UInt8) : Except Fault Reading :=
  if byte = 0x6E then
    .ok { reading with expectation := .word ⟨[0x75, 0x6C, 0x6C], .null⟩ }
  else if byte = 0x74 then
    .ok { reading with expectation := .word ⟨[0x72, 0x75, 0x65], .bool true⟩ }
  else if byte = 0x66 then
    .ok { reading with expectation := .word ⟨[0x61, 0x6C, 0x73, 0x65], .bool false⟩ }
  else if byte = 0x22 then .ok { reading with expectation := .string .empty }
  else if byte = 0x5B then reading.enter (.array []) .firstItem
  else if byte = 0x7B then reading.enter (.object [] "") .firstKey
  else
    match PartialNumber.ofByte? byte with
    | some number => .ok { reading with expectation := .number number }
    | none => .error ⟨.expectedValue, reading.position⟩

/-- A byte that starts the value under the embedding key; the position already counts it.  An
array or object is refused before its bracket. -/
def beginEmbedded (reading : Reading) (byte : UInt8) : Except Fault Reading :=
  if byte = 0x5B then
    .error ⟨.notEmbedded (Value.array []).description, reading.position.back 1⟩
  else if byte = 0x7B then
    .error ⟨.notEmbedded (Value.object []).description, reading.position.back 1⟩
  else reading.beginValue byte

/-- A value without parts is complete.  Under the embedding key it has to be the text of a
document. -/
def complete (embedded : EmbeddedReader) (reading : Reading) (value : Value) :
    Except Fault Reading :=
  match reading.containers, value with
  | .embedding :: _, .string text =>
      match embedded text with
      | .ok value => .ok { reading with expectation := .delimiter value }
      | .error fault => .error fault
  | .embedding :: _, other => .error ⟨.notEmbedded other.description, reading.position⟩
  | _, _ => .ok { reading with expectation := .delimiter value }

/-- A byte that starts a key; the position already counts it. -/
def beginKey (reading : Reading) (members : List (String × Value)) (byte : UInt8) :
    Except Fault Reading :=
  if byte = 0x22 then .ok { reading with expectation := .key members .empty }
  else .error ⟨.keyNotString, reading.position⟩

/-- Leaves the innermost array or object, which is complete with this value. -/
def leave (reading : Reading) (value : Value) : Reading :=
  { reading with containers := reading.containers.tail, expectation := .delimiter value }

/-- A byte after a complete value; the position already counts it. -/
def delimit (reading : Reading) (value : Value) (byte : UInt8) : Except Fault Reading :=
  match reading.containers with
  | [] =>
      if isBlank byte then .ok { reading with expectation := .delimiter value }
      else .error ⟨.trailingCharacters, reading.position⟩
  | .array items :: outer =>
      if isBlank byte then .ok { reading with expectation := .delimiter value }
      else if byte = 0x2C then
        .ok { reading with
          containers := .array (value :: items) :: outer
          expectation := .laterItem }
      else if byte = 0x5D then .ok (reading.leave (.array (value :: items).reverse))
      else .error ⟨.expectedCommaOrBracket, reading.position⟩
  | .object members key :: _ =>
      if isBlank byte then .ok { reading with expectation := .delimiter value }
      else if byte = 0x2C then
        .ok { reading with expectation := .laterKey (putMember key value members) }
      else if byte = 0x7D then .ok (reading.leave (.object (putMember key value members)))
      else .error ⟨.expectedCommaOrBrace, reading.position⟩
  | .embedding :: _ =>
      if isBlank byte then .ok { reading with expectation := .delimiter value }
      else if byte = 0x2C then .error ⟨.trailingComma, reading.position⟩
      else if byte = 0x7D then .ok (reading.leave value)
      else .error ⟨.trailingCharacters, reading.position⟩

/-- Names the key of the value that comes next in the innermost object. -/
def nameMember (reading : Reading) (members : List (String × Value)) (key : String) : Reading :=
  let container :=
    if members.isEmpty && key == embeddingKey then .embedding else .object members key
  { reading with containers := container :: reading.containers.tail, expectation := .value }

def step (embedded : EmbeddedReader) (before : Reading) (byte : UInt8) : Except Fault Reading :=
  let reading := { before with position := before.position.after byte }
  match reading.expectation with
  | .value =>
      if isBlank byte then .ok reading
      else
        match reading.containers with
        | .embedding :: _ => reading.beginEmbedded byte
        | _ => reading.beginValue byte
  | .firstItem =>
      if isBlank byte then .ok reading
      else if byte = 0x5D then .ok (reading.leave (.array []))
      else reading.beginValue byte
  | .laterItem =>
      if isBlank byte then .ok reading
      else if byte = 0x5D then .error ⟨.trailingComma, reading.position⟩
      else reading.beginValue byte
  | .firstKey =>
      if isBlank byte then .ok reading
      else if byte = 0x7D then .ok (reading.leave (.object []))
      else reading.beginKey [] byte
  | .laterKey members =>
      if isBlank byte then .ok reading
      else if byte = 0x7D then .error ⟨.trailingComma, reading.position⟩
      else reading.beginKey members byte
  | .colon members key =>
      if isBlank byte then .ok reading
      else if byte = 0x3A then .ok (reading.nameMember members key)
      else .error ⟨.expectedColon, reading.position⟩
  | .key members text =>
      match text.step byte reading.position with
      | .extend text => .ok { reading with expectation := .key members text }
      | .close key => .ok { reading with expectation := .colon members key }
      | .refuse fault => .error fault
  | .word ⟨expected :: rest, value⟩ =>
      if byte = expected then
        if rest.isEmpty then reading.complete embedded value
        else .ok { reading with expectation := .word ⟨rest, value⟩ }
      else .error ⟨.unknownWord, reading.position⟩
  | .word ⟨[], value⟩ => reading.delimit value byte
  | .number number =>
      match number.step byte with
      | .extend number => .ok { reading with expectation := .number number }
      | .refuse kind => .error ⟨kind, reading.position⟩
      | .ended =>
          match number.finish with
          | .error kind => .error ⟨kind, before.position⟩
          | .ok value =>
              match before.complete embedded value with
              | .ok _ => reading.delimit value byte
              | .error fault => .error fault
  | .string text =>
      match text.step byte reading.position with
      | .extend text => .ok { reading with expectation := .string text }
      | .close text => reading.complete embedded (.string text)
      | .refuse fault => .error fault
  | .delimiter value => reading.delimit value byte

/-- The value of a document that ends here after a complete value. -/
def finishValue (reading : Reading) (value : Value) : Except Fault Value :=
  match reading.containers with
  | [] => .ok value
  | .array _ :: _ => .error ⟨.endInArray, reading.position⟩
  | .object _ _ :: _ | .embedding :: _ => .error ⟨.endInObject, reading.position⟩

/-- The value of a document that ends here. -/
def finish (embedded : EmbeddedReader) (reading : Reading) : Except Fault Value :=
  match reading.expectation with
  | .value | .laterItem | .laterKey _ | .word _ => .error ⟨.endInValue, reading.position⟩
  | .firstItem => .error ⟨.endInArray, reading.position⟩
  | .firstKey | .colon _ _ => .error ⟨.endInObject, reading.position⟩
  | .key _ _ | .string _ => .error ⟨.endInString, reading.position⟩
  | .number number =>
      match number.finish with
      | .error kind => .error ⟨kind, reading.position⟩
      | .ok value =>
          match reading.complete embedded value with
          | .ok completed => completed.finishValue value
          | .error fault => .error fault
  | .delimiter value => reading.finishValue value

end Reading

/-- The value that a document holds, in which documents are embedded in each other less than
`levels` deep (`JsonSerializer::deserialize` with a bound). -/
def readWithin : Nat → Bytes → Except Fault Value
  | 0, _ => .error ⟨.endInValue, .start⟩
  | levels + 1, document =>
      let embedded : EmbeddedReader := fun text => readWithin levels (Text.encodeUtf8 text)
      match document.foldlM (Reading.step embedded) Reading.start with
      | .ok reading => reading.finish embedded
      | .error fault => .error fault

/-- The value that a document holds.  An embedded document has fewer bytes than the one around it,
so one that lies as deep as the bytes are many is empty, and refused as such
(`JsonSerializer::deserialize`). -/
def read (document : Bytes) : Except Fault Value := readWithin document.length document

end Json
end RemoteCall
