import RemoteCall.Text.Numeral

/-!
# Internet addresses

Addresses of both families in their usual notations.  In the longer family one run of zero groups
may be left out, and the last two groups may be written like an address of the shorter family.
-/

namespace RemoteCall
namespace Net

/-- An address of the shorter family, four numbers of eight bits. -/
structure Ipv4 where
  octets : Vector UInt8 4
  deriving DecidableEq, Repr

/-- An address of the longer family, eight numbers of sixteen bits. -/
structure Ipv6 where
  groups : Vector UInt16 8
  deriving DecidableEq, Repr

inductive Address where
  | v4 (address : Ipv4)
  | v6 (address : Ipv6)
  deriving DecidableEq, Repr

/-- The parts of a text between separators; there is always at least one. -/
def parts (separator : Char) : List Char → List (List Char)
  | [] => [[]]
  | character :: later =>
      match parts separator later with
      | [] => [[character]]
      | part :: others =>
          if character = separator then [] :: part :: others else (character :: part) :: others

namespace Ipv4

/-- One of the four numbers: one to three digits, no zero in front, at most 255. -/
def octet? (digits : List Char) : Option UInt8 :=
  if digits.length ≤ 3 ∧ (digits.length = 1 ∨ digits.head? ≠ some '0') then
    ((Text.digitsValue? digits).filter (· < 256)).map UInt8.ofNat
  else none

/-- The address that a text of four numbers with dots between them denotes. -/
def ofChars? (characters : List Char) : Option Ipv4 :=
  match parts '.' characters with
  | [first, second, third, fourth] =>
      match octet? first, octet? second, octet? third, octet? fourth with
      | some first, some second, some third, some fourth => some ⟨#v[first, second, third, fourth]⟩
      | _, _, _, _ => none
  | _ => none

def text (address : Ipv4) : String :=
  String.intercalate "." (address.octets.toList.map fun octet => toString octet.toNat)

/-- The two groups that the address fills in an address of the longer family. -/
def groups (address : Ipv4) : List UInt16 :=
  match address.octets.toList with
  | [first, second, third, fourth] =>
      [first.toUInt16 * 256 + second.toUInt16, third.toUInt16 * 256 + fourth.toUInt16]
  | _ => []

end Ipv4

namespace Ipv6

/-- The value of hexadecimal digits after an already read number. -/
def hexValueFrom (value : Nat) : List Char → Option Nat
  | [] => some value
  | character :: later =>
      match Text.hexValue? character with
      | some digit => hexValueFrom (value * 16 + digit) later
      | none => none

/-- One of the eight numbers: one to four hexadecimal digits. -/
def group? (digits : List Char) : Option UInt16 :=
  if 1 ≤ digits.length ∧ digits.length ≤ 4 then (hexValueFrom 0 digits).map UInt16.ofNat else none

/-- The groups of parts between colons; where it is allowed, the last part may be written like an
address of the shorter family and then stands for two groups. -/
def groupsOf (dotted : Bool) : List (List Char) → Option (List UInt16)
  | [] => some []
  | [last] =>
      match group? last with
      | some group => some [group]
      | none => if dotted then (Ipv4.ofChars? last).map Ipv4.groups else none
  | part :: later =>
      match group? part, groupsOf dotted later with
      | some group, some groups => some (group :: groups)
      | _, _ => none

/-- The groups of a text without a gap; an empty text has none. -/
def groupsOfText (dotted : Bool) : List Char → Option (List UInt16)
  | [] => some []
  | characters => groupsOf dotted (parts ':' characters)

/-- The texts before and after the first two colons in a row. -/
def splitGap : List Char → Option (List Char × List Char)
  | [] => none
  | ':' :: ':' :: later => some ([], later)
  | character :: later => (splitGap later).map fun (front, back) => (character :: front, back)

/-- The address of a list of groups, if there are eight. -/
def ofGroups? (groups : List UInt16) : Option Ipv6 :=
  if exact : groups.length = 8 then some ⟨⟨groups.toArray, by simpa using exact⟩⟩ else none

/-- The address that a text denotes.  A gap stands for at least one group. -/
def ofChars? (characters : List Char) : Option Ipv6 :=
  match splitGap characters with
  | none => (groupsOf true (parts ':' characters)).bind ofGroups?
  | some (front, back) =>
      match groupsOfText false front, groupsOfText true back with
      | some front, some back =>
          if front.length + back.length ≤ 7 then
            ofGroups? (front ++ List.replicate (8 - (front.length + back.length)) 0 ++ back)
          else none
      | _, _ => none

/-- The address of the shorter family that is written inside this one, if the address is of the
form reserved for that. -/
def mapped? (address : Ipv6) : Option Ipv4 :=
  match address.groups.toList with
  | [0, 0, 0, 0, 0, 0xFFFF, high, low] =>
      some ⟨#v[(high / 256).toUInt8, (high % 256).toUInt8, (low / 256).toUInt8,
        (low % 256).toUInt8]⟩
  | _ => none

def zerosAhead : List UInt16 → Nat
  | [] => 0
  | group :: later => if group = 0 then zerosAhead later + 1 else 0

/-- The start and length of the first of the longest runs of zeros, the groups before being
counted by `index` and the best run among them given. -/
def longestZeros (index : Nat) (best : Nat × Nat) : List UInt16 → Nat × Nat
  | [] => best
  | group :: later =>
      let ahead := zerosAhead (group :: later)
      longestZeros (index + 1) (if best.2 < ahead then (index, ahead) else best) later

def groupsText (groups : List UInt16) : String :=
  String.intercalate ":" (groups.map fun group => Text.hexNumeral group.toNat)

/-- The usual notation: lower case, no leading zeros, the first of the longest runs of at least two
zeros left out, and the form reserved for the shorter family written with dots. -/
def text (address : Ipv6) : String :=
  match address.mapped? with
  | some inner => "::ffff:" ++ inner.text
  | none =>
      let groups := address.groups.toList
      let (start, length) := longestZeros 0 (0, 0) groups
      if 1 < length then
        groupsText (groups.take start) ++ "::" ++ groupsText (groups.drop (start + length))
      else groupsText groups

end Ipv6

namespace Address

def ofText? (text : String) : Option Address :=
  match Ipv4.ofChars? text.toList with
  | some address => some (.v4 address)
  | none => (Ipv6.ofChars? text.toList).map .v6

def text : Address → String
  | .v4 address => address.text
  | .v6 address => address.text

end Address

/-- A text without the brackets around it, if it has both. -/
def withoutBrackets (host : String) : String :=
  match host.toList with
  | '[' :: later => if later.getLast? = some ']' then String.ofList later.dropLast else host
  | _ => host

/-- Whether a host is written as an address, with or without brackets (`is_ip_literal`). -/
def isAddressLiteral (host : String) : Bool :=
  (Address.ofText? (withoutBrackets host)).isSome

/-- Whether a host is an address of the longer family without brackets. -/
def isBareIpv6 (host : String) : Bool := (Ipv6.ofChars? host.toList).isSome

/-- A host as it stands in an authority: an address of the longer family gets brackets (in
`format_authority`). -/
def bracketed (host : String) : String :=
  if isBareIpv6 host then "[" ++ host ++ "]" else host

end Net
end RemoteCall
