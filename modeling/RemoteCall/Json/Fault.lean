import RemoteCall.Json.Description
import RemoteCall.Json.Embedding

/-!
# Why a JSON document is refused

A document that is not JSON is refused at the first byte that rules it out, or at its end if it
merely stops too early.  The place is given by line and by the number of bytes read on that line.
-/

namespace RemoteCall
namespace Json

/-- A place between the bytes of a document. -/
structure Position where
  line : Nat
  column : Nat
  deriving DecidableEq, Repr

namespace Position

def start : Position := ⟨1, 0⟩

def after (position : Position) (byte : UInt8) : Position :=
  if byte = 0x0A then ⟨position.line + 1, 0⟩ else ⟨position.line, position.column + 1⟩

/-- The place some bytes earlier on the same line. -/
def back (position : Position) (count : Nat) : Position :=
  ⟨position.line, position.column - count⟩

end Position

inductive FaultKind where
  | endInValue
  | endInArray
  | endInObject
  | endInString
  | expectedValue
  | unknownWord
  | invalidNumber
  | numberOutOfRange
  | trailingComma
  | trailingCharacters
  | expectedCommaOrBracket
  | expectedCommaOrBrace
  | expectedColon
  | keyNotString
  | controlInString
  | invalidEscape
  | loneSurrogate
  | surrogateNotContinued
  | invalidCharacter
  | tooDeep
  /-- Under the embedding key stands not a text but a value described like this. -/
  | notEmbedded (found : String)
  deriving DecidableEq, Repr

namespace FaultKind

def message : FaultKind → String
  | .endInValue => "EOF while parsing a value"
  | .endInArray => "EOF while parsing a list"
  | .endInObject => "EOF while parsing an object"
  | .endInString => "EOF while parsing a string"
  | .expectedValue => "expected value"
  | .unknownWord => "expected ident"
  | .invalidNumber => "invalid number"
  | .numberOutOfRange => "number out of range"
  | .trailingComma => "trailing comma"
  | .trailingCharacters => "trailing characters"
  | .expectedCommaOrBracket => "expected \x60,\x60 or \x60]\x60"
  | .expectedCommaOrBrace => "expected \x60,\x60 or \x60\x7d\x60"
  | .expectedColon => "expected \x60:\x60"
  | .keyNotString => "key must be a string"
  | .controlInString =>
      "control character (\\u0000-\\u001F) found while parsing a string"
  | .invalidEscape => "invalid escape"
  | .loneSurrogate => "lone leading surrogate in hex escape"
  | .surrogateNotContinued => "unexpected end of hex escape"
  | .invalidCharacter => "invalid unicode code point"
  | .tooDeep => "recursion limit exceeded"
  | .notEmbedded found => wrongTypeText found embeddingExpectation

end FaultKind

/-- What is wrong with a document, and where. -/
structure Fault where
  kind : FaultKind
  position : Position
  deriving DecidableEq, Repr

def Fault.message (fault : Fault) : String :=
  fault.kind.message ++ " at line " ++ toString fault.position.line ++ " column " ++
    toString fault.position.column

end Json
end RemoteCall
