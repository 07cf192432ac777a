import RemoteCall.Net.Address
import RemoteCall.Proofs.Text.Numeral

/-!
# How hosts are written

An address is read from the parts of its text, so the characters of the text are those of the parts
and the separators, and there are as many separators as there are parts, less one.  An address of
the longer family therefore has between two and eight colons, and no text without a colon is one.
This settles which hosts get brackets, and that those with brackets do not get them twice.
-/

namespace RemoteCall

namespace Net

/-- The characters of host names. -/
def isNameCharacter (character : Char) : Bool :=
  character.isAlphanum || character == '-' || character == '.'

/-- The characters of hosts: those of names and of addresses, and brackets. -/
def isHostCharacter (character : Char) : Bool :=
  isNameCharacter character || character == ':' || character == '[' || character == ']'

theorem ne_of_test {test : Char → Bool} {character other : Char} (passes : test character = true)
    (fails : test other = false) : character ≠ other := by
  rintro rfl
  rw [fails] at passes
  cases passes

section Parts

variable {separator character : Char} {characters : List Char}

theorem parts_ne_nil : parts separator characters ≠ [] := by
  cases characters with
  | nil => exact List.cons_ne_nil _ _
  | cons first later =>
      rw [parts]
      split
      · exact List.cons_ne_nil _ _
      · split
        · exact List.cons_ne_nil _ _
        · exact List.cons_ne_nil _ _

theorem length_parts (separator : Char) (characters : List Char) :
    (parts separator characters).length = characters.count separator + 1 := by
  induction characters with
  | nil => rfl
  | cons first later ih =>
      rw [parts]
      cases rest : parts separator later with
      | nil => exact absurd rest parts_ne_nil
      | cons part others =>
          rw [rest] at ih
          by_cases same : first = separator
          · simp [same, ← ih]
          · simp [same, ← ih]

theorem eq_or_mem_parts (separator : Char) (member : character ∈ characters) :
    character = separator ∨ ∃ part ∈ parts separator characters, character ∈ part := by
  induction characters with
  | nil => cases member
  | cons first later ih =>
      rw [parts]
      cases rest : parts separator later with
      | nil => exact absurd rest parts_ne_nil
      | cons part others =>
          rw [rest] at ih
          by_cases same : first = separator
          · rcases List.mem_cons.mp member with rfl | member
            · exact Or.inl same
            · simpa [same] using ih member
          · rcases List.mem_cons.mp member with rfl | member
            · simp [same]
            · rcases ih member with isSeparator | ⟨found, isPart, inside⟩
              · exact Or.inl isSeparator
              · refine Or.inr ?_
                rcases List.mem_cons.mp isPart with rfl | isPart
                · exact ⟨first :: found, by simp [same], by simp [inside]⟩
                · exact ⟨found, by simp [same, isPart], inside⟩

end Parts

namespace Ipv4

theorem isDigit_of_octet? {digits : List Char} {octet : UInt8} (read : octet? digits = some octet) :
    ∀ character ∈ digits, character.isDigit = true := by
  unfold octet? at read
  split at read
  · obtain ⟨value, isValue, _⟩ := Option.map_eq_some_iff.mp read
    exact (Text.isDigit_of_digitsValue? (Option.filter_eq_some_iff.mp isValue).1).2
  · cases read

/-- An address of the shorter family consists of digits and dots. -/
theorem name_of_ofChars? {characters : List Char} {address : Ipv4}
    (read : ofChars? characters = some address) :
    characters ≠ [] ∧ ∀ character ∈ characters, isNameCharacter character = true := by
  unfold ofChars? at read
  split at read
  · next first second third fourth split =>
      split at read
      · next one two three four =>
          constructor
          · rintro rfl
            cases split
          · intro character member
            rcases eq_or_mem_parts '.' member with rfl | ⟨part, isPart, inside⟩
            · decide
            · rw [split] at isPart
              have digit : character.isDigit = true := by
                simp only [List.mem_cons, List.not_mem_nil, or_false] at isPart
                rcases isPart with rfl | rfl | rfl | rfl
                · exact isDigit_of_octet? one character inside
                · exact isDigit_of_octet? two character inside
                · exact isDigit_of_octet? three character inside
                · exact isDigit_of_octet? four character inside
              simp [isNameCharacter, Char.isAlphanum, digit]
      · cases read
  · cases read

@[simp]
theorem length_groups (address : Ipv4) : address.groups.length = 2 := by
  have four : address.octets.toList.length = 4 := address.octets.length_toList
  unfold groups
  split
  · rfl
  · next others =>
      match octets : address.octets.toList, four with
      | [first, second, third, fourth], _ => exact absurd octets (others _ _ _ _)

end Ipv4

namespace Ipv6

theorem isAlphanum_of_hexValueFrom {characters : List Char} {start value : Nat}
    (read : hexValueFrom start characters = some value) :
    ∀ character ∈ characters, character.isAlphanum = true := by
  induction characters generalizing start with
  | nil => exact nofun
  | cons first later ih =>
      rw [hexValueFrom] at read
      cases digit : Text.hexValue? first with
      | none =>
          rw [digit] at read
          cases read
      | some number =>
          rw [digit] at read
          intro character member
          rcases List.mem_cons.mp member with rfl | member
          · exact Text.isAlphanum_of_hexValue? digit
          · exact ih read character member

theorem name_of_group? {digits : List Char} {group : UInt16} (read : group? digits = some group) :
    ∀ character ∈ digits, isNameCharacter character = true := by
  unfold group? at read
  split at read
  · obtain ⟨value, isValue, _⟩ := Option.map_eq_some_iff.mp read
    intro character member
    simp [isNameCharacter, isAlphanum_of_hexValueFrom isValue character member]
  · cases read

/-- What the groups of some parts tell about the parts. -/
structure Grouped (parts : List (List Char)) (groups : List UInt16) : Prop where
  names : ∀ part ∈ parts, ∀ character ∈ part, isNameCharacter character = true
  least : parts.length ≤ groups.length
  greatest : groups.length ≤ parts.length + 1

theorem grouped_of_groupsOf {dotted : Bool} {parts : List (List Char)} {groups : List UInt16}
    (read : groupsOf dotted parts = some groups) : Grouped parts groups := by
  induction parts generalizing groups with
  | nil =>
      cases read
      exact ⟨nofun, Nat.le_refl 0, Nat.zero_le 1⟩
  | cons part later ih =>
      cases later with
      | nil =>
          rw [groupsOf] at read
          cases last : group? part with
          | some group =>
              rw [last] at read
              cases read
              refine ⟨?_, Nat.le_refl 1, Nat.le_succ 1⟩
              intro other member
              rw [List.mem_singleton.mp member]
              exact name_of_group? last
          | none =>
              rw [last] at read
              dsimp only at read
              split at read
              · obtain ⟨address, dots, rfl⟩ := Option.map_eq_some_iff.mp read
                refine ⟨?_, ?_, ?_⟩
                · intro other member
                  rw [List.mem_singleton.mp member]
                  exact (Ipv4.name_of_ofChars? dots).2
                · simp
                · simp
              · cases read
      | cons next others =>
          rw [groupsOf] at read
          · split at read
            · next group found first rest =>
                cases read
                obtain ⟨names, least, greatest⟩ := ih rest
                refine ⟨?_, ?_, ?_⟩
                · intro other member
                  rcases List.mem_cons.mp member with rfl | member
                  · exact name_of_group? first
                  · exact names other member
                · simpa using least
                · simpa using greatest
            · cases read
          · exact nofun

/-- The text before or after a gap has fewer colons than groups, if it has groups at all. -/
theorem count_of_groupsOfText {dotted : Bool} {characters : List Char} {groups : List UInt16}
    (read : groupsOfText dotted characters = some groups) :
    (∀ character ∈ characters, character = ':' ∨ isNameCharacter character = true) ∧
      characters.count ':' ≤ groups.length - 1 := by
  cases characters with
  | nil =>
      cases read
      exact ⟨nofun, Nat.le_refl 0⟩
  | cons first later =>
      have grouped : Grouped (parts ':' (first :: later)) groups := grouped_of_groupsOf read
      constructor
      · intro character member
        rcases eq_or_mem_parts ':' member with isColon | ⟨part, isPart, inside⟩
        · exact Or.inl isColon
        · exact Or.inr (grouped.names part isPart character inside)
      · have least := grouped.least
        rw [length_parts] at least
        omega

theorem eq_of_splitGap {characters front back : List Char}
    (split : splitGap characters = some (front, back)) :
    characters = front ++ ':' :: ':' :: back := by
  induction characters generalizing front with
  | nil => cases split
  | cons first later ih =>
      unfold splitGap at split
      split at split
      · next impossible => cases impossible
      · next rest same =>
          cases same
          cases split
          rfl
      · next character rest _ same =>
          cases same
          obtain ⟨⟨before, after⟩, isGap, same⟩ := Option.map_eq_some_iff.mp split
          cases same
          rw [ih isGap, List.cons_append]

theorem length_of_ofGroups? {groups : List UInt16} {address : Ipv6}
    (read : ofGroups? groups = some address) : groups.length = 8 := by
  unfold ofGroups? at read
  split at read
  · assumption
  · cases read

/-- What the text of an address of the longer family looks like. -/
structure Spelled (text : List Char) : Prop where
  characters : ∀ character ∈ text, character = ':' ∨ isNameCharacter character = true
  least : 2 ≤ text.count ':'
  greatest : text.count ':' ≤ 8

theorem spelled_of_ofChars? {characters : List Char} {address : Ipv6}
    (read : ofChars? characters = some address) : Spelled characters := by
  unfold ofChars? at read
  split at read
  · obtain ⟨groups, isGroups, whole⟩ := Option.bind_eq_some_iff.mp read
    have grouped := grouped_of_groupsOf isGroups
    have eight := length_of_ofGroups? whole
    have count := length_parts ':' characters
    have least := grouped.least
    have greatest := grouped.greatest
    refine ⟨?_, by omega, by omega⟩
    intro character member
    rcases eq_or_mem_parts ':' member with isColon | ⟨part, isPart, inside⟩
    · exact Or.inl isColon
    · exact Or.inr (grouped.names part isPart character inside)
  · next front back split =>
      split at read
      · next before after isBefore isAfter =>
          split at read
          · next room =>
              obtain ⟨frontCharacters, frontCount⟩ := count_of_groupsOfText isBefore
              obtain ⟨backCharacters, backCount⟩ := count_of_groupsOfText isAfter
              have whole := eq_of_splitGap split
              have count : characters.count ':' = front.count ':' + (back.count ':' + 2) := by
                simp [whole]
              refine ⟨?_, by omega, by omega⟩
              intro character member
              rw [whole] at member
              simp only [List.mem_append, List.mem_cons] at member
              rcases member with inFront | isColon | isColon | inBack
              · exact frontCharacters character inFront
              · exact Or.inl isColon
              · exact Or.inl isColon
              · exact backCharacters character inBack
          · cases read
      · cases read

end Ipv6

section Hosts

/-- Hosts that a server can be reached by: an address of either family, one of the longer family
with brackets or without, and a name. -/
inductive IsHost : String → Prop where
  | ipv4 {host : String} {address : Ipv4} (read : Ipv4.ofChars? host.toList = some address) :
      IsHost host
  | ipv6 {host : String} {address : Ipv6} (read : Ipv6.ofChars? host.toList = some address) :
      IsHost host
  | brackets {host : String} {address : Ipv6} (read : Ipv6.ofChars? host.toList = some address) :
      IsHost ("[" ++ host ++ "]")
  | name {host : String} (nonempty : host ≠ "")
      (names : ∀ character ∈ host.toList, isNameCharacter character = true) : IsHost host

/-- Texts that stand for a host in an authority. -/
inductive Written : List Char → Prop where
  | name {text : List Char} (nonempty : text ≠ [])
      (names : ∀ character ∈ text, isNameCharacter character = true) : Written text
  | brackets {text : List Char} (spelled : Ipv6.Spelled text) : Written ('[' :: (text ++ [']']))

theorem Ipv6.Spelled.ne {text : List Char} (spelled : Spelled text) {character other : Char}
    (member : character ∈ text) (colon : other ≠ ':') (unnamed : isNameCharacter other = false) :
    character ≠ other := by
  rcases spelled.characters character member with rfl | name
  · exact colon.symm
  · exact ne_of_test name unnamed

theorem Ipv6.Spelled.isHostCharacter {text : List Char} (spelled : Spelled text) :
    ∀ character ∈ text, isHostCharacter character = true := by
  intro character member
  rcases spelled.characters character member with rfl | name
  · rfl
  · simp [Net.isHostCharacter, name]

theorem Ipv6.Spelled.isHostCharacter_brackets {text : List Char} (spelled : Spelled text) :
    ∀ character ∈ '[' :: (text ++ [']']), Net.isHostCharacter character = true := by
  intro character member
  simp only [List.mem_cons, List.mem_append, List.not_mem_nil, or_false] at member
  rcases member with rfl | inside | rfl
  · rfl
  · exact spelled.isHostCharacter character inside
  · rfl

theorem Written.isHostCharacter {text : List Char} (written : Written text) :
    ∀ character ∈ text, isHostCharacter character = true := by
  cases written with
  | name nonempty names =>
      intro character member
      simp [Net.isHostCharacter, names character member]
  | brackets spelled => exact spelled.isHostCharacter_brackets

theorem not_spelled_of_written {text : List Char} (written : Written text) :
    ¬Ipv6.Spelled text := by
  intro spelled
  cases written with
  | name nonempty names =>
      have colon : ':' ∈ text :=
        List.count_pos_iff.mp (Nat.lt_of_lt_of_le (by decide) spelled.least)
      exact ne_of_test (names ':' colon) (by decide) rfl
  | brackets =>
      exact spelled.ne (List.mem_cons_self) (by decide) (by decide) rfl

/-- A host that is written as it should be does not get brackets. -/
theorem bracketed_of_written {host : String} (written : Written host.toList) :
    bracketed host = host := by
  unfold bracketed isBareIpv6
  cases read : Ipv6.ofChars? host.toList with
  | none => rfl
  | some address => exact absurd (Ipv6.spelled_of_ofChars? read) (not_spelled_of_written written)

theorem written_bracketed {host : String} (isHost : IsHost host) :
    Written (bracketed host).toList := by
  cases isHost with
  | ipv4 read =>
      obtain ⟨nonempty, names⟩ := Ipv4.name_of_ofChars? read
      have written : Written host.toList := .name nonempty names
      rwa [bracketed_of_written written]
  | ipv6 read =>
      have bare : isBareIpv6 host = true := by rw [isBareIpv6, read, Option.isSome_some]
      rw [bracketed, if_pos bare, String.toList_append, String.toList_append]
      exact .brackets (Ipv6.spelled_of_ofChars? read)
  | @brackets inner _ read =>
      have written : Written ("[" ++ inner ++ "]").toList := by
        rw [String.toList_append, String.toList_append]
        exact .brackets (Ipv6.spelled_of_ofChars? read)
      rwa [bracketed_of_written written]
  | name nonempty names =>
      have written : Written host.toList := .name (by simpa using nonempty) names
      rwa [bracketed_of_written written]

/-- An address of the shorter family is written with digits and dots. -/
theorem written_text (address : Ipv4) : Written address.text.toList := by
  obtain ⟨⟨⟨octets⟩, four⟩⟩ := address
  match octets, four with
  | [first, second, third, fourth], _ =>
      have digits (octet : UInt8) (character : Char)
          (member : character ∈ (toString octet.toNat).toList) :
          isNameCharacter character = true := by
        have digit := Text.isDigit_of_mem_toString octet.toNat character member
        simp [isNameCharacter, Char.isAlphanum, digit]
      have text : (Ipv4.text ⟨⟨⟨[first, second, third, fourth]⟩, rfl⟩⟩).toList =
          (toString first.toNat).toList ++ '.' :: ((toString second.toNat).toList ++
            '.' :: ((toString third.toNat).toList ++ '.' :: (toString fourth.toNat).toList)) := by
        simp [Ipv4.text]
      refine .name ?_ ?_
      · rw [text]
        simp
      · rw [text]
        intro character member
        simp only [List.mem_append, List.mem_cons] at member
        rcases member with digit | rfl | digit | rfl | digit | rfl | digit
        · exact digits first character digit
        · decide
        · exact digits second character digit
        · decide
        · exact digits third character digit
        · decide
        · exact digits fourth character digit

theorem bracketed_bracketed (host : String) : bracketed (bracketed host) = bracketed host := by
  cases bare : isBareIpv6 host with
  | false => simp only [bracketed, bare, Bool.false_eq_true, if_false]
  | true =>
      obtain ⟨address, read⟩ := Option.isSome_iff_exists.mp bare
      exact bracketed_of_written (written_bracketed (.ipv6 read))

theorem IsHost.isHostCharacter {host : String} (isHost : IsHost host) :
    ∀ character ∈ host.toList, isHostCharacter character = true := by
  cases isHost with
  | ipv4 read =>
      obtain ⟨nonempty, names⟩ := Ipv4.name_of_ofChars? read
      exact (Written.name nonempty names).isHostCharacter
  | ipv6 read => exact (Ipv6.spelled_of_ofChars? read).isHostCharacter
  | brackets read =>
      rw [String.toList_append, String.toList_append]
      exact (Ipv6.spelled_of_ofChars? read).isHostCharacter_brackets
  | name nonempty names => exact (Written.name (by simpa using nonempty) names).isHostCharacter

end Hosts

end Net
end RemoteCall
