import RemoteCall.Text.Numeral
import RemoteCall.Text.Printable

/-!
# Quoted text

A text inside an explanation stands between double quotes, with the quote, the backslash and the
common controls escaped and everything a reader could not see written as its code point.
-/

namespace RemoteCall
namespace Text

def quoteCharacter (character : Char) : List Char :=
  match character with
  | '\x00' => ['\\', '0']
  | '\t' => ['\\', 't']
  | '\r' => ['\\', 'r']
  | '\n' => ['\\', 'n']
  | '\\' => ['\\', '\\']
  | '"' => ['\\', '"']
  | other =>
      if printable other then [other]
      else ['\\', 'u', Char.ofNat 0x7B] ++ Nat.toDigits 16 other.toNat ++ [Char.ofNat 0x7D]

def quote (text : String) : String :=
  String.ofList ('"' :: text.toList.flatMap quoteCharacter ++ ['"'])

end Text
end RemoteCall
