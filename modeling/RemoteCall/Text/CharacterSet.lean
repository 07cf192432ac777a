/-!
# Sets of characters

A property of characters that holds on a few hundred stretches of code points is stored as the
sorted list of the code points at which it starts and stops holding.  Membership then walks that
list and counts the changes passed, which keeps the tables short and the test structural.
-/

namespace RemoteCall
namespace Text

/-- A set of characters, given by the increasing code points at which membership changes.  The
set starts out empty before the first of them. -/
structure CharacterSet where
  changes : List Nat

namespace CharacterSet

/-- Whether membership has changed an odd number of times up to and including a code point. -/
def oddChanges (codePoint : Nat) : List Nat → Bool
  | [] => false
  | change :: later => if codePoint < change then false else !oddChanges codePoint later

def contains (characters : CharacterSet) (character : Char) : Bool :=
  oddChanges character.toNat characters.changes

end CharacterSet
end Text
end RemoteCall
