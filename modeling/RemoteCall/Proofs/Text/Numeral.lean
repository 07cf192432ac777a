import RemoteCall.Text.Numeral

/-!
# Reading written numbers

A whole number that is written in decimal, with a minus sign if it is negative, reads back as that
number; and its text has no blanks that could be taken off before it is read.
-/

namespace RemoteCall
namespace Text

/-- The characters of decimal numbers. -/
def IsNumeral (character : Char) : Prop := character.isDigit = true ∨ character = '-'

theorem digitValue?_of_isDigit {character : Char} (digit : character.isDigit = true) :
    digitValue? character = some (character.toNat - '0'.toNat) := by
  have bounds : '0' ≤ character ∧ character ≤ '9' := by
    simpa [Char.isDigit, Char.le_def] using digit
  simp [digitValue?, bounds]

theorem digitsValueFrom_eq_ofDigitChars {characters : List Char}
    (digits : ∀ character ∈ characters, character.isDigit = true) (value : Nat) :
    digitsValueFrom value characters = some (Nat.ofDigitChars 10 characters value) := by
  induction characters generalizing value with
  | nil => rfl
  | cons character later ih =>
      rw [digitsValueFrom, digitValue?_of_isDigit (digits character (by simp)),
        Nat.ofDigitChars_cons, Nat.mul_comm]
      exact ih (fun other member => digits other (by simp [member])) _

theorem isDigit_of_mem_toDigits (number : Nat) :
    ∀ character ∈ Nat.toDigits 10 number, character.isDigit = true :=
  fun _ member => Nat.isDigit_of_mem_toDigits (by decide) (by decide) member

@[simp]
theorem digitsValue?_toDigits (number : Nat) :
    digitsValue? (Nat.toDigits 10 number) = some number := by
  have value : digitsValueFrom 0 (Nat.toDigits 10 number) = some number := by
    rw [digitsValueFrom_eq_ofDigitChars (isDigit_of_mem_toDigits number),
      Nat.ofDigitChars_ten_toDigits]
  cases digits : Nat.toDigits 10 number with
  | nil => exact absurd digits Nat.toDigits_ne_nil
  | cons first later =>
      rw [digits] at value
      exact value

theorem toList_toString_ofNat (number : Nat) :
    (toString (Int.ofNat number)).toList = Nat.toDigits 10 number :=
  Nat.toList_repr

theorem isDigit_of_mem_toString (number : Nat) :
    ∀ character ∈ (toString number).toList, character.isDigit = true := by
  have digits : (toString number).toList = Nat.toDigits 10 number := Nat.toList_repr
  rw [digits]
  exact isDigit_of_mem_toDigits number

theorem toList_toString_negSucc (number : Nat) :
    (toString (Int.negSucc number)).toList = '-' :: Nat.toDigits 10 (number + 1) := by
  have written : toString (Int.negSucc number) = "-" ++ (number + 1).repr := rfl
  rw [written, String.toList_append, Nat.toList_repr]
  rfl

/-- A whole number in decimal reads back as itself. -/
theorem readInteger?_toString {bound : Nat} {number : Int} (least : -(bound : Int) ≤ number)
    (below : number < bound) : readInteger? bound (toString number) = some number := by
  cases number with
  | ofNat magnitude =>
      have inRange : magnitude < bound := Int.ofNat_lt.mp below
      have value := digitsValue?_toDigits magnitude
      rw [readInteger?, toList_toString_ofNat]
      have digits := isDigit_of_mem_toDigits magnitude
      generalize Nat.toDigits 10 magnitude = characters at value digits
      split
      · exact absurd (digits '-' (by simp)) (by decide)
      · exact absurd (digits '+' (by simp)) (by decide)
      · rw [value, Option.filter_some, if_pos (decide_eq_true inRange), Option.map_some]
  | negSucc magnitude =>
      have inRange : magnitude + 1 ≤ bound := by omega
      rw [readInteger?, toList_toString_negSucc]
      change ((digitsValue? (Nat.toDigits 10 (magnitude + 1))).filter (· ≤ bound)).map
        (fun value => -Int.ofNat value) = _
      rw [digitsValue?_toDigits, Option.filter_some, if_pos (decide_eq_true inRange),
        Option.map_some]
      rfl

theorem isDigit_of_digitValue? {character : Char} {digit : Nat}
    (value : digitValue? character = some digit) : character.isDigit = true := by
  unfold digitValue? at value
  split at value
  · next bounds =>
      simp only [Bool.and_eq_true, decide_eq_true_eq] at bounds
      simpa [Char.isDigit, Char.le_def] using bounds
  · cases value

theorem isDigit_of_digitsValueFrom {characters : List Char} {start value : Nat}
    (read : digitsValueFrom start characters = some value) :
    ∀ character ∈ characters, character.isDigit = true := by
  induction characters generalizing start with
  | nil => exact nofun
  | cons first later ih =>
      rw [digitsValueFrom] at read
      cases digit : digitValue? first with
      | none =>
          rw [digit] at read
          cases read
      | some number =>
          rw [digit] at read
          intro character member
          rcases List.mem_cons.mp member with rfl | member
          · exact isDigit_of_digitValue? digit
          · exact ih read character member

theorem isDigit_of_digitsValue? {characters : List Char} {value : Nat}
    (read : digitsValue? characters = some value) :
    characters ≠ [] ∧ ∀ character ∈ characters, character.isDigit = true := by
  cases characters with
  | nil => cases read
  | cons first later => exact ⟨List.cons_ne_nil first later, isDigit_of_digitsValueFrom read⟩

theorem isDigit_iff {character : Char} :
    character.isDigit = true ↔ 48 ≤ character.toNat ∧ character.toNat ≤ 57 :=
  Bool.and_eq_true_iff.trans (and_congr decide_eq_true_iff decide_eq_true_iff)

/-- Letters and digits are three ranges of code points. -/
theorem isAlphanum_iff {character : Char} :
    character.isAlphanum = true ↔
      (65 ≤ character.toNat ∧ character.toNat ≤ 90 ∨
        97 ≤ character.toNat ∧ character.toNat ≤ 122) ∨
          48 ≤ character.toNat ∧ character.toNat ≤ 57 := by
  have upper : character.isUpper = true ↔ 65 ≤ character.toNat ∧ character.toNat ≤ 90 :=
    decide_eq_true_iff
  have lower : character.isLower = true ↔ 97 ≤ character.toNat ∧ character.toNat ≤ 122 :=
    Bool.and_eq_true_iff.trans (and_congr decide_eq_true_iff decide_eq_true_iff)
  have letter : character.isAlpha = true ↔ character.isUpper = true ∨ character.isLower = true :=
    Bool.or_eq_true_iff
  have either : character.isAlphanum = true ↔
      character.isAlpha = true ∨ character.isDigit = true := Bool.or_eq_true_iff
  rw [either, letter, upper, lower, isDigit_iff]

theorem isAlphanum_of_hexValue? {character : Char} {digit : Nat}
    (value : hexValue? character = some digit) : character.isAlphanum = true := by
  rw [isAlphanum_iff]
  unfold hexValue? at value
  simp only [Bool.and_eq_true, decide_eq_true_eq, Char.le_def, UInt32.le_iff_toNat_le] at value
  split at value
  · next bounds => exact Or.inr bounds
  · split at value
    · next bounds => exact Or.inl (Or.inr ⟨bounds.1, Nat.le_trans bounds.2 (by decide)⟩)
    · split at value
      · next bounds => exact Or.inl (Or.inl ⟨bounds.1, Nat.le_trans bounds.2 (by decide)⟩)
      · cases value

theorem readNatural?_of_digits {digits : List Char} {number bound : Nat}
    (characters : ∀ character ∈ digits, character.isDigit = true)
    (value : digitsValue? digits = some number) (below : number < bound) :
    readNatural? bound (String.ofList digits) = some number := by
  rw [readNatural?, String.toList_ofList]
  split
  · exact absurd (characters '+' (by simp)) (by decide)
  · rw [value, Option.filter_some, if_pos (decide_eq_true below)]

/-- A natural number in decimal reads back as itself. -/
theorem readNatural?_toString {bound number : Nat} (below : number < bound) :
    readNatural? bound (toString number) = some number := by
  have written : toString number = String.ofList (Nat.toDigits 10 number) :=
    String.toList_injective (by rw [String.toList_ofList]; exact Nat.toList_repr)
  rw [written]
  exact readNatural?_of_digits (isDigit_of_mem_toDigits number) (digitsValue?_toDigits number) below

theorem isDigit_of_readNatural? {bound number : Nat} {text : String}
    (read : readNatural? bound text = some number) :
    ∀ character ∈ text.toList, character = '+' ∨ character.isDigit = true := by
  unfold readNatural? at read
  have value := (Option.filter_eq_some_iff.mp read).1
  intro character member
  split at value
  · next later signed =>
      rw [signed] at member
      rcases List.mem_cons.mp member with isPlus | member
      · exact Or.inl isPlus
      · exact Or.inr ((isDigit_of_digitsValue? value).2 character member)
  · exact Or.inr ((isDigit_of_digitsValue? value).2 character member)

/-- One or more digits in decimal, with a plus sign in front or without one, and their value. -/
def Spells (text : String) (number : Nat) : Prop :=
  ∃ digits : List Char, (text.toList = digits ∨ text.toList = '+' :: digits) ∧ digits ≠ [] ∧
    (∀ character ∈ digits, character.isDigit = true) ∧ Nat.ofDigitChars 10 digits 0 = number

theorem digitsValue?_eq_some_iff {digits : List Char} {number : Nat} :
    digitsValue? digits = some number ↔
      digits ≠ [] ∧ (∀ character ∈ digits, character.isDigit = true) ∧
        Nat.ofDigitChars 10 digits 0 = number := by
  cases digits with
  | nil => simp [digitsValue?]
  | cons first later =>
      have value (digits : ∀ character ∈ first :: later, character.isDigit = true) :
          digitsValue? (first :: later) = some (Nat.ofDigitChars 10 (first :: later) 0) :=
        digitsValueFrom_eq_ofDigitChars digits 0
      constructor
      · intro read
        obtain ⟨nonempty, digits⟩ := isDigit_of_digitsValue? read
        rw [value digits] at read
        exact ⟨nonempty, digits, Option.some.inj read⟩
      · rintro ⟨_, digits, rfl⟩
        exact value digits

/-- What is read as a natural number is exactly what spells one below the bound. -/
theorem readNatural?_eq_some_iff {bound number : Nat} {text : String} :
    readNatural? bound text = some number ↔ Spells text number ∧ number < bound := by
  unfold readNatural? Spells
  rw [Option.filter_eq_some_iff, decide_eq_true_eq]
  refine and_congr_left fun _ => ?_
  split
  · next later signed =>
      rw [digitsValue?_eq_some_iff, signed]
      constructor
      · exact fun spelled => ⟨later, Or.inr rfl, spelled⟩
      · rintro ⟨digits, rfl | same, nonempty, characters, value⟩
        · exact absurd (characters '+' (by simp)) (by decide)
        · cases same
          exact ⟨nonempty, characters, value⟩
  · next unsigned =>
      rw [digitsValue?_eq_some_iff]
      constructor
      · exact fun spelled => ⟨text.toList, Or.inl rfl, spelled⟩
      · rintro ⟨digits, same | signed, spelled⟩
        · rw [same]
          exact spelled
        · exact absurd signed (unsigned digits)

theorem isNumeral_toString (number : Int) :
    ∀ character ∈ (toString number).toList, IsNumeral character := by
  intro character member
  cases number with
  | ofNat magnitude =>
      rw [toList_toString_ofNat] at member
      exact Or.inl (isDigit_of_mem_toDigits magnitude character member)
  | negSucc magnitude =>
      rw [toList_toString_negSucc] at member
      rcases List.mem_cons.mp member with sign | digit
      · exact Or.inr sign
      · exact Or.inl (isDigit_of_mem_toDigits (magnitude + 1) character digit)

theorem IsNumeral.not_isBlank {character : Char} (numeral : IsNumeral character) :
    isBlank character = false := by
  rcases numeral with digit | rfl
  · rw [Bool.eq_false_iff]
    intro blank
    simp only [isBlank, Bool.or_eq_true, beq_iff_eq] at blank
    rcases blank with rfl | rfl
    · exact absurd digit (by decide)
    · exact absurd digit (by decide)
  · decide

theorem dropWhile_isBlank {characters : List Char}
    (solid : ∀ character ∈ characters, isBlank character = false) :
    characters.dropWhile isBlank = characters := by
  cases characters with
  | nil => rfl
  | cons character later =>
      exact List.dropWhile_cons_of_neg (by simp [solid character (by simp)])

theorem trimmed_of_not_isBlank {text : String}
    (solid : ∀ character ∈ text.toList, isBlank character = false) : trimmed text = text := by
  have reversed : ∀ character ∈ text.toList.reverse, isBlank character = false :=
    fun character member => solid character (List.mem_reverse.mp member)
  rw [trimmed, dropWhile_isBlank solid, dropWhile_isBlank reversed, List.reverse_reverse,
    String.ofList_toList]

/-- A natural number in decimal has no blanks around it. -/
@[simp]
theorem trimmed_toString (number : Nat) : trimmed (toString number) = toString number := by
  refine trimmed_of_not_isBlank fun character member => ?_
  have numeral : IsNumeral character := Or.inl (isDigit_of_mem_toString number character member)
  exact numeral.not_isBlank

end Text
end RemoteCall
