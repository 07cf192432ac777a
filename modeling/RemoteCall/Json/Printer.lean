import RemoteCall.Decimal.Shortest
import RemoteCall.Json.Value
import RemoteCall.Text.Numeral
import RemoteCall.Text.Utf8

/-!
# Compact JSON text

A value has one written form: no blanks, members in the order of the value, and in strings only
the quote, the backslash and the controls below the space are escaped.  A double precision number
is written with the fewest digits that read back, positionally between `1e-5` and `1e16` and with
an exponent outside, and always so that it does not read as a whole number.
-/

namespace RemoteCall
namespace Json

/-- The decimal exponents of the leading digit between which a number is written positionally. -/
structure PositionalRange where
  least : Int
  bound : Int

/-- Numbers from `1e-5` up to but not including `1e16` are written positionally. -/
def floatRange : PositionalRange := ⟨-5, 16⟩

def magnitudeText (decimal : Scientific) : List Char :=
  let digits := Nat.toDigits 10 decimal.digits
  let leading := decimal.exponent + Int.ofNat digits.length - 1
  if leading < floatRange.least ∨ floatRange.bound ≤ leading then
    let fraction :=
      match digits.drop 1 with
      | [] => []
      | rest => '.' :: rest
    digits.take 1 ++ fraction ++ ['e', if leading < 0 then '-' else '+'] ++
      Nat.toDigits 10 leading.natAbs
  else if leading < 0 then
    ['0', '.'] ++ List.replicate (leading.natAbs - 1) '0' ++ digits
  else
    let whole := leading.natAbs + 1
    if digits.length ≤ whole then
      digits ++ List.replicate (whole - digits.length) '0' ++ ['.', '0']
    else digits.take whole ++ ['.'] ++ digits.drop whole

/-- The written form of a double precision number; one that is not finite has none of its own and
is written as `null`. -/
def floatText (number : Double) : List Char :=
  let sign := if number.isNegative then ['-'] else []
  if !number.isFinite then ['n', 'u', 'l', 'l']
  else if number.significand = 0 then sign ++ ['0', '.', '0']
  else sign ++ magnitudeText number.shortest

def integerText (number : Integer) : List Char :=
  if number.value < 0 then '-' :: Nat.toDigits 10 number.value.natAbs
  else Nat.toDigits 10 number.value.natAbs

def stringCharacter (character : Char) : List Char :=
  if character = '"' then ['\\', '"']
  else if character = '\\' then ['\\', '\\']
  else if 0x20 ≤ character.toNat then [character]
  else if character.toNat = 0x08 then ['\\', 'b']
  else if character.toNat = 0x09 then ['\\', 't']
  else if character.toNat = 0x0A then ['\\', 'n']
  else if character.toNat = 0x0C then ['\\', 'f']
  else if character.toNat = 0x0D then ['\\', 'r']
  else
    ['\\', 'u', '0', '0', Text.hexDigit (character.toNat / 16),
      Text.hexDigit (character.toNat % 16)]

def stringText (text : String) : List Char :=
  '"' :: (text.toList.flatMap stringCharacter ++ ['"'])

namespace Value

mutual

/-- The characters of the written form of a value. -/
def characters : Value → List Char
  | .null => ['n', 'u', 'l', 'l']
  | .bool true => ['t', 'r', 'u', 'e']
  | .bool false => ['f', 'a', 'l', 's', 'e']
  | .integer number => integerText number
  | .float number => floatText number
  | .string text => stringText text
  | .array [] => ['[', ']']
  | .array (item :: later) => '[' :: (item.characters ++ laterItems later)
  | .object [] => [Char.ofNat 0x7B, Char.ofNat 0x7D]
  | .object ((key, value) :: later) =>
      Char.ofNat 0x7B :: (stringText key ++ ':' :: (value.characters ++ laterMembers later))

/-- The items after the first one, up to the closing bracket. -/
def laterItems : List Value → List Char
  | [] => [']']
  | item :: later => ',' :: (item.characters ++ laterItems later)

/-- The members after the first one, up to the closing brace. -/
def laterMembers : List (String × Value) → List Char
  | [] => [Char.ofNat 0x7D]
  | (key, value) :: later =>
      ',' :: (stringText key ++ ':' :: (value.characters ++ laterMembers later))

end

def text (value : Value) : String := String.ofList value.characters

/-- The written form of a value in UTF-8 (`JsonSerializer::serialize`). -/
def bytes (value : Value) : Bytes := value.characters.flatMap String.utf8EncodeChar

end Value
end Json
end RemoteCall
