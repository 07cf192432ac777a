/-!
# UTF-8

Bytes become characters one byte at a time.  The reader below is a small machine that either
waits for more bytes of a character, completes one, or refuses a byte; the strict reading, the
lenient reading that puts a replacement character where bytes make no sense, and the reading of
quoted text all run the same machine.
-/

namespace RemoteCall

/-- A sequence of bytes, such as a body or a header value. -/
abbrev Bytes := List UInt8

namespace Text

def encodeUtf8 (text : String) : Bytes :=
  text.toList.flatMap String.utf8EncodeChar

/-- The bytes of a character of which some have been read: how many are still to come, the range
allowed for the next one, and the code point collected so far. -/
structure PartialCharacter where
  missing : Nat
  least : UInt8
  greatest : UInt8
  collected : Nat
  deriving DecidableEq, Repr

/-- What one more byte makes of a character. -/
inductive Utf8Step where
  /-- The byte is the last one of a character. -/
  | complete (character : Char)
  /-- The byte fits and more are needed. -/
  | await (rest : PartialCharacter)
  /-- No character continues in this way. -/
  | refuse
  deriving Repr

def firstByte (byte : UInt8) : Utf8Step :=
  if byte < 0x80 then .complete (Char.ofNat byte.toNat)
  else if byte < 0xC2 then .refuse
  else if byte < 0xE0 then .await ⟨1, 0x80, 0xBF, byte.toNat - 0xC0⟩
  else if byte = 0xE0 then .await ⟨2, 0xA0, 0xBF, 0⟩
  else if byte = 0xED then .await ⟨2, 0x80, 0x9F, 0xD⟩
  else if byte < 0xF0 then .await ⟨2, 0x80, 0xBF, byte.toNat - 0xE0⟩
  else if byte = 0xF0 then .await ⟨3, 0x90, 0xBF, 0⟩
  else if byte < 0xF4 then .await ⟨3, 0x80, 0xBF, byte.toNat - 0xF0⟩
  else if byte = 0xF4 then .await ⟨3, 0x80, 0x8F, 4⟩
  else .refuse

/-- A byte after the first one of a character. -/
def laterByte (awaited : PartialCharacter) (byte : UInt8) : Utf8Step :=
  if byte < awaited.least || awaited.greatest < byte then .refuse
  else
    let collected := awaited.collected * 64 + (byte.toNat - 0x80)
    if awaited.missing ≤ 1 then .complete (Char.ofNat collected)
    else .await ⟨awaited.missing - 1, 0x80, 0xBF, collected⟩

/-- The next byte, with the character begun before it, if any. -/
def nextByte : Option PartialCharacter → UInt8 → Utf8Step
  | none, byte => firstByte byte
  | some awaited, byte => laterByte awaited byte

/-- The character that stands for bytes that make no sense. -/
def replacementCharacter : Char := Char.ofNat 0xFFFD

/-- The strict reading, from the middle of a character or between two. -/
def decodeFrom : Option PartialCharacter → Bytes → Option (List Char)
  | none, [] => some []
  | some _, [] => none
  | begun, byte :: later =>
      match nextByte begun byte with
      | .complete character => (decodeFrom none later).map (character :: ·)
      | .await rest => decodeFrom (some rest) later
      | .refuse => none

/-- The text that some bytes spell, if they are valid throughout. -/
def decodeUtf8? (bytes : Bytes) : Option String :=
  (decodeFrom none bytes).map String.ofList

/-- How many bytes are left from the first one on that belongs to no character, from the middle of
a character or between two; `begunLength` counts the bytes of the character begun. -/
def undecodedFrom : Option PartialCharacter → Nat → Bytes → Nat
  | _, begunLength, [] => begunLength
  | begun, begunLength, byte :: later =>
      match nextByte begun byte with
      | .complete _ => undecodedFrom none 0 later
      | .await rest => undecodedFrom (some rest) (begunLength + 1) later
      | .refuse => begunLength + (later.length + 1)

/-- How many bytes are left from the first one on that belongs to no character; zero if the bytes
are valid throughout. -/
def undecoded (bytes : Bytes) : Nat := undecodedFrom none 0 bytes

/-- The lenient reading, from the middle of a character or between two.  A byte that does not fit
ends the character begun before it, which is replaced, and is looked at again as a first byte. -/
def decodeLenientFrom : Option PartialCharacter → Bytes → List Char
  | none, [] => []
  | some _, [] => [replacementCharacter]
  | none, byte :: later =>
      match firstByte byte with
      | .complete character => character :: decodeLenientFrom none later
      | .await rest => decodeLenientFrom (some rest) later
      | .refuse => replacementCharacter :: decodeLenientFrom none later
  | some awaited, byte :: later =>
      match laterByte awaited byte with
      | .complete character => character :: decodeLenientFrom none later
      | .await rest => decodeLenientFrom (some rest) later
      | .refuse =>
          match firstByte byte with
          | .complete character =>
              replacementCharacter :: character :: decodeLenientFrom none later
          | .await rest => replacementCharacter :: decodeLenientFrom (some rest) later
          | .refuse => replacementCharacter :: replacementCharacter :: decodeLenientFrom none later

/-- The text of some bytes, with a replacement character for each longest stretch that cannot be
continued to a character. -/
def decodeLenient (bytes : Bytes) : String :=
  String.ofList (decodeLenientFrom none bytes)

end Text
end RemoteCall
