import RemoteCall.Json.Fault
import RemoteCall.Text.Utf8

/-!
# Reading JSON strings

Inside a string the bytes are characters in UTF-8, escapes, or escapes in hexadecimal, of which
two in a row may form one character beyond the first sixty-four thousand.  Whether the bytes are
valid UTF-8 is decided when the string ends, after its escapes have been replaced; the place of
the first invalid one is found by counting the bytes after it back from the closing quote.
-/

namespace RemoteCall
namespace Json

inductive EscapeStage where
  /-- No escape is being read. -/
  | none
  /-- A backslash has been read. -/
  | backslash
  /-- Up to four bytes of a hexadecimal escape, of which those read are kept, latest first,
  together with the leading surrogate before it. -/
  | hexadecimal (digits : List UInt8) (leading : Option Nat)
  /-- A leading surrogate, after which another escape must follow. -/
  | surrogate (leading : Nat)
  /-- A leading surrogate and a backslash. -/
  | surrogateBackslash (leading : Nat)
  deriving DecidableEq, Repr

/-- A string of which some bytes have been read. -/
structure PartialString where
  /-- The bytes that the string stands for so far, latest first. -/
  bytes : Bytes
  escape : EscapeStage

inductive StringStep where
  /-- The string goes on. -/
  | extend (text : PartialString)
  /-- The byte is the closing quote. -/
  | close (text : String)
  /-- The byte, and with it the document, is refused. -/
  | refuse (fault : Fault)

namespace PartialString

def empty : PartialString := ⟨[], .none⟩

def pushByte (text : PartialString) (byte : UInt8) : PartialString :=
  { text with bytes := byte :: text.bytes }

def pushCharacter (text : PartialString) (character : Char) : PartialString :=
  ⟨(String.utf8EncodeChar character).reverse ++ text.bytes, .none⟩

/-- The value of a hexadecimal digit given as a byte. -/
def hexByte? (byte : UInt8) : Option Nat :=
  if 0x30 ≤ byte ∧ byte ≤ 0x39 then some (byte.toNat - 0x30)
  else if 0x61 ≤ byte ∧ byte ≤ 0x66 then some (byte.toNat - 0x61 + 10)
  else if 0x41 ≤ byte ∧ byte ≤ 0x46 then some (byte.toNat - 0x41 + 10)
  else none

/-- The number that hexadecimal digits spell, latest first. -/
def hexadecimalValue? : List UInt8 → Option Nat
  | [] => some 0
  | byte :: earlier =>
      match hexadecimalValue? earlier, hexByte? byte with
      | some value, some digit => some (value * 16 + digit)
      | _, _ => none

/-- The character that a letter stands for after a backslash. -/
def simpleEscape? (byte : UInt8) : Option Char :=
  if byte = 0x22 ∨ byte = 0x5C ∨ byte = 0x2F then some (Char.ofNat byte.toNat)
  else if byte = 0x62 then some (Char.ofNat 0x08)
  else if byte = 0x66 then some (Char.ofNat 0x0C)
  else if byte = 0x6E then some (Char.ofNat 0x0A)
  else if byte = 0x72 then some (Char.ofNat 0x0D)
  else if byte = 0x74 then some (Char.ofNat 0x09)
  else none

/-- Whether a number is the first half of a pair. -/
def isLeading (value : Nat) : Bool := 0xD800 ≤ value && value < 0xDC00

/-- Whether a number is the second half of a pair. -/
def isTrailing (value : Nat) : Bool := 0xDC00 ≤ value && value < 0xE000

/-- A hexadecimal escape of this value, completed before the position. -/
def pushEscape (text : PartialString) (leading : Option Nat) (value : Nat)
    (position : Position) : StringStep :=
  match leading with
  | none =>
      if isTrailing value then .refuse ⟨.loneSurrogate, position⟩
      else if isLeading value then .extend { text with escape := .surrogate value }
      else .extend (text.pushCharacter (Char.ofNat value))
  | some first =>
      if isTrailing value then
        .extend <| text.pushCharacter <|
          Char.ofNat ((first - 0xD800) * 0x400 + (value - 0xDC00) + 0x10000)
      else .refuse ⟨.loneSurrogate, position⟩

/-- The string that ends with a quote before the position. -/
def close (text : PartialString) (position : Position) : StringStep :=
  let bytes := text.bytes.reverse
  match Text.decodeUtf8? bytes with
  | some text => .close text
  | none => .refuse ⟨.invalidCharacter, position.back (Text.undecoded bytes)⟩

/-- The next byte of a string, which the position follows. -/
def step (text : PartialString) (byte : UInt8) (position : Position) : StringStep :=
  match text.escape with
  | .none =>
      if byte = 0x22 then text.close position
      else if byte = 0x5C then .extend { text with escape := .backslash }
      else if byte < 0x20 then .refuse ⟨.controlInString, position⟩
      else .extend (text.pushByte byte)
  | .backslash =>
      if byte = 0x75 then .extend { text with escape := .hexadecimal [] none }
      else
        match simpleEscape? byte with
        | some character => .extend (text.pushCharacter character)
        | none => .refuse ⟨.invalidEscape, position⟩
  | .hexadecimal digits leading =>
      if digits.length < 3 then
        .extend { text with escape := .hexadecimal (byte :: digits) leading }
      else
        match hexadecimalValue? (byte :: digits) with
        | some value => text.pushEscape leading value position
        | none => .refuse ⟨.invalidEscape, position⟩
  | .surrogate leading =>
      if byte = 0x5C then .extend { text with escape := .surrogateBackslash leading }
      else .refuse ⟨.surrogateNotContinued, position⟩
  | .surrogateBackslash leading =>
      if byte = 0x75 then .extend { text with escape := .hexadecimal [] (some leading) }
      else .refuse ⟨.surrogateNotContinued, position⟩

end PartialString
end Json
end RemoteCall
