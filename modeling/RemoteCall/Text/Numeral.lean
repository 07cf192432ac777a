/-!
# Decimal numerals

Whole numbers inside headers, ports and bodies are written in decimal and read back with bounds.
A sign in front is accepted where the kind of number has one, a plus sign always; any number of
leading zeros is fine, and nothing else may stand in the text.
-/

namespace RemoteCall
namespace Text

/-- The blanks that can occur in a header. -/
def isBlank (character : Char) : Bool := character == ' ' || character == '\t'

/-- A text without the blanks at both ends. -/
def trimmed (text : String) : String :=
  String.ofList ((text.toList.dropWhile isBlank).reverse.dropWhile isBlank).reverse

def digitValue? (character : Char) : Option Nat :=
  if '0' ≤ character && character ≤ '9' then some (character.toNat - '0'.toNat) else none

/-- The value of digits after an already read number. -/
def digitsValueFrom (value : Nat) : List Char → Option Nat
  | [] => some value
  | character :: later =>
      match digitValue? character with
      | some digit => digitsValueFrom (value * 10 + digit) later
      | none => none

/-- The value of a text of one or more digits. -/
def digitsValue? : List Char → Option Nat
  | [] => none
  | digits => digitsValueFrom 0 digits

/-- Reads a natural number below a bound, with an optional plus sign. -/
def readNatural? (bound : Nat) (text : String) : Option Nat :=
  let digits :=
    match text.toList with
    | '+' :: digits => digits
    | digits => digits
  (digitsValue? digits).filter (· < bound)

/-- Reads an integer of which the bound's negative is still allowed and the bound itself is not,
with an optional sign. -/
def readInteger? (bound : Nat) (text : String) : Option Int :=
  match text.toList with
  | '-' :: digits => ((digitsValue? digits).filter (· ≤ bound)).map fun value => -Int.ofNat value
  | '+' :: digits => ((digitsValue? digits).filter (· < bound)).map Int.ofNat
  | digits => ((digitsValue? digits).filter (· < bound)).map Int.ofNat

/-- The hexadecimal digit of a number below sixteen. -/
def hexDigit (value : Nat) : Char :=
  if value < 10 then Char.ofNat ('0'.toNat + value) else Char.ofNat ('a'.toNat + (value - 10))

/-- The value of a hexadecimal digit in either case. -/
def hexValue? (character : Char) : Option Nat :=
  if '0' ≤ character && character ≤ '9' then some (character.toNat - '0'.toNat)
  else if 'a' ≤ character && character ≤ 'f' then some (character.toNat - 'a'.toNat + 10)
  else if 'A' ≤ character && character ≤ 'F' then some (character.toNat - 'A'.toNat + 10)
  else none

/-- A number in lower-case hexadecimal without leading zeros. -/
def hexNumeral (value : Nat) : String :=
  String.ofList (Nat.toDigits 16 value)

end Text
end RemoteCall
