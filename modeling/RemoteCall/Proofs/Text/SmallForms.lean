import Mathlib.Data.List.TakeWhile
import RemoteCall.Proofs.Text.Lowercase

/-!
# Small forms

The small form of a character is the character itself, which is then no capital of ASCII, or
consists of characters that come after the capitals.  So lower case neither makes nor loses the
delimiters of ASCII.  It depends on the context only at a capital sigma, which looks for letters
around it, and such a letter is not looked for beyond a character that is neither a letter nor
passed over; so a text that is put together with such delimiters is mapped part by part.
-/

namespace RemoteCall
namespace Text

/-- The first code point after the capitals of ASCII and the delimiters among them. -/
def firstSmall : Nat := 0x61

/-- What holds of every run in the table: it starts at or after the capitals of ASCII, and what it
maps them to are code points of characters, none of which comes before the small letters. -/
def CaseRun.Fits (run : CaseRun) : Prop :=
  0x41 ≤ run.first ∧ (firstSmall : Int) ≤ run.first + run.shift ∧
    (run.last + run.shift < 0xD800 ∨
      0xDFFF < run.first + run.shift ∧ run.last + run.shift < 0x110000)

instance (run : CaseRun) : Decidable run.Fits := by
  unfold CaseRun.Fits
  infer_instance

theorem fits_of_mem : ∀ run ∈ caseRuns, run.Fits := by decide +kernel

theorem CaseRun.covers_iff {run : CaseRun} {codePoint : Nat} :
    run.covers codePoint = true ↔
      run.first ≤ codePoint ∧ codePoint ≤ run.last ∧ (codePoint - run.first) % run.stride = 0 := by
  simp [CaseRun.covers, and_assoc]

theorem toNat_ofNat {codePoint : Nat} (valid : codePoint.isValidChar) :
    (Char.ofNat codePoint).toNat = codePoint := by
  rw [Char.ofNat, dif_pos valid]
  rfl

theorem CaseRun.Fits.toNat {run : CaseRun} (fits : run.Fits) {character : Char}
    (covered : run.covers character.toNat = true) :
    firstSmall ≤ (Char.ofNat (Int.ofNat character.toNat + run.shift).toNat).toNat := by
  obtain ⟨_, least, valid⟩ := fits
  obtain ⟨after, before, _⟩ := CaseRun.covers_iff.mp covered
  have isValid : (Int.ofNat character.toNat + run.shift).toNat.isValidChar := by
    rw [Nat.isValidChar]
    rw [firstSmall] at least
    simp only [Int.ofNat_eq_natCast]
    omega
  rw [toNat_ofNat isValid]
  simp only [Int.ofNat_eq_natCast]
  omega

/-- What a character can become: it is kept, if it is no capital of ASCII, or becomes characters
that come after these. -/
inductive Becomes (character : Char) : List Char → Prop where
  | kept (small : ¬character.isUpper = true) : Becomes character [character]
  | mapped {first : Char} {others : List Char}
      (after : ∀ small ∈ first :: others, firstSmall ≤ small.toNat) :
      Becomes character (first :: others)

theorem becomes_singleton (character : Char) {small : Char} (after : firstSmall ≤ small.toNat) :
    Becomes character [small] := by
  refine .mapped fun other member => ?_
  rw [List.mem_singleton.mp member]
  exact after

theorem becomes_smallForm (character : Char) : Becomes character (smallForm character) := by
  unfold smallForm
  split
  · refine .mapped fun small member => ?_
    simp only [List.mem_cons, List.not_mem_nil, or_false] at member
    rcases member with rfl | rfl <;> decide
  · split
    · next run found =>
        have covered : run.covers character.toNat = true := by
          simpa using List.find?_some found
        have fits := fits_of_mem run (List.mem_of_find?_eq_some found)
        exact becomes_singleton character (fits.toNat covered)
    · next uncovered =>
        refine .kept fun upper => ?_
        have capital := isUpper_iff.mp upper
        have covered : CaseRun.covers ⟨0x41, 0x5A, 1, 0x20⟩ character.toNat = true :=
          CaseRun.covers_iff.mpr ⟨capital.1, capital.2, Nat.mod_one _⟩
        exact List.find?_eq_none.mp uncovered _ List.mem_cons_self covered

theorem smallForm_of_lt {character : Char} (before : character.toNat < 0x41) :
    smallForm character = [character] := by
  have uncovered : caseRuns.find? (·.covers character.toNat) = none := by
    refine List.find?_eq_none.mpr fun run member covered => ?_
    have first := (fits_of_mem run member).1
    have after := (CaseRun.covers_iff.mp covered).1
    omega
  rw [smallForm, if_neg (by omega), uncovered]

/-- What a character becomes in its context. -/
def smallAt (earlier : List Char) (character : Char) (later : List Char) : List Char :=
  if character.toNat = 0x3A3 then
    if nextIsCased earlier && !nextIsCased later then [Char.ofNat 0x3C2] else [Char.ofNat 0x3C3]
  else smallForm character

theorem lowercaseAfter_cons (earlier : List Char) (character : Char) (later : List Char) :
    lowercaseAfter earlier (character :: later) =
      smallAt earlier character later ++ lowercaseAfter (character :: earlier) later := rfl

theorem becomes_smallAt (earlier : List Char) (character : Char) (later : List Char) :
    Becomes character (smallAt earlier character later) := by
  unfold smallAt
  split
  · split
    · exact becomes_singleton character (by decide)
    · exact becomes_singleton character (by decide)
  · exact becomes_smallForm character

theorem smallAt_of_lt {character : Char} (before : character.toNat < 0x41)
    (earlier later : List Char) : smallAt earlier character later = [character] := by
  rw [smallAt, if_neg (by omega), smallForm_of_lt before]

section Delimiters

variable {delimiter : Char}

/-- A character before the small letters is in a text in lower case only if it was there before,
and is no capital. -/
theorem of_mem_lowercaseAfter (before : delimiter.toNat < firstSmall)
    {earlier characters : List Char} (member : delimiter ∈ lowercaseAfter earlier characters) :
    delimiter ∈ characters ∧ ¬delimiter.isUpper = true := by
  induction characters generalizing earlier with
  | nil => cases member
  | cons character later ih =>
      rw [lowercaseAfter_cons] at member
      rcases List.mem_append.mp member with here | there
      · have becomes := becomes_smallAt earlier character later
        generalize smallAt earlier character later = form at becomes here
        cases becomes with
        | kept small =>
            cases List.mem_singleton.mp here
            exact ⟨List.mem_cons_self, small⟩
        | mapped after => exact absurd (after delimiter here) (Nat.not_le.mpr before)
      · exact (ih there).imp_left (List.mem_cons_of_mem character)

theorem mem_lowercaseAfter_of_lt (before : delimiter.toNat < 0x41)
    {earlier characters : List Char} (member : delimiter ∈ characters) :
    delimiter ∈ lowercaseAfter earlier characters := by
  induction characters generalizing earlier with
  | nil => cases member
  | cons character later ih =>
      rw [lowercaseAfter_cons]
      rcases List.mem_cons.mp member with rfl | member
      · rw [smallAt_of_lt before]
        exact List.mem_cons_self
      · exact List.mem_append_right _ (ih member)

/-- The first character is a delimiter only if it was one before. -/
theorem head?_of_head?_lowercaseAfter (before : delimiter.toNat < firstSmall)
    {earlier characters : List Char}
    (isHead : (lowercaseAfter earlier characters).head? = some delimiter) :
    characters.head? = some delimiter := by
  cases characters with
  | nil => cases isHead
  | cons character later =>
      rw [lowercaseAfter_cons] at isHead
      have becomes := becomes_smallAt earlier character later
      generalize smallAt earlier character later = form at becomes isHead
      cases becomes with
      | kept => exact isHead
      | mapped after =>
          cases isHead
          exact absurd (after delimiter List.mem_cons_self) (Nat.not_le.mpr before)

end Delimiters

section Contexts

theorem nextIsCased_cons (character : Char) (later : List Char) :
    nextIsCased (character :: later) =
      if caseIgnorable.contains character = true then nextIsCased later
      else cased.contains character := by
  unfold nextIsCased
  rw [List.dropWhile_cons]
  by_cases ignored : caseIgnorable.contains character = true
  · rw [if_pos ignored, if_pos ignored]
  · rw [if_neg ignored, if_neg ignored]

theorem not_cased_of_lt {character : Char} (before : character.toNat < 0x41) :
    cased.contains character = false := by
  unfold CharacterSet.contains cased CharacterSet.oddChanges
  exact if_pos before

theorem nextIsCased_of_lt {characters : List Char}
    (before : ∀ character ∈ characters, character.toNat < 0x41) :
    nextIsCased characters = false := by
  induction characters with
  | nil => rfl
  | cons character later ih =>
      rw [nextIsCased_cons, not_cased_of_lt (before character List.mem_cons_self),
        ih fun other member => before other (List.mem_cons_of_mem character member)]
      exact ite_self false

theorem nextIsCased_append {characters rest : List Char} (caseless : nextIsCased rest = false) :
    nextIsCased (characters ++ rest) = nextIsCased characters := by
  induction characters with
  | nil => exact caseless
  | cons character later ih => rw [List.cons_append, nextIsCased_cons, nextIsCased_cons, ih]

/-- A text before which no letter is found is mapped as it would be alone. -/
theorem lowercaseAfter_context {before : List Char} (caseless : nextIsCased before = false)
    (earlier characters : List Char) :
    lowercaseAfter (earlier ++ before) characters = lowercaseAfter earlier characters := by
  induction characters generalizing earlier with
  | nil => rfl
  | cons character later ih =>
      rw [lowercaseAfter_cons, lowercaseAfter_cons, smallAt, smallAt,
        nextIsCased_append caseless, ← ih (character :: earlier), List.cons_append]

/-- A text after which no letter is found is mapped as it would be alone. -/
theorem lowercaseAfter_append {rest : List Char} (caseless : nextIsCased rest = false)
    (earlier characters : List Char) :
    lowercaseAfter earlier (characters ++ rest) =
      lowercaseAfter earlier characters ++ lowercaseAfter (characters.reverse ++ earlier) rest := by
  induction characters generalizing earlier with
  | nil => rfl
  | cons character later ih =>
      rw [List.cons_append, lowercaseAfter_cons, lowercaseAfter_cons, smallAt, smallAt,
        nextIsCased_append caseless, ih (character :: earlier), List.append_assoc]
      simp

/-- A text without letters is kept. -/
theorem lowercaseAfter_of_lt {characters : List Char}
    (before : ∀ character ∈ characters, character.toNat < 0x41) (earlier : List Char) :
    lowercaseAfter earlier characters = characters := by
  induction characters generalizing earlier with
  | nil => rfl
  | cons character later ih =>
      rw [lowercaseAfter_cons, smallAt_of_lt (before character List.mem_cons_self),
        ih (fun other member => before other (List.mem_cons_of_mem character member))]
      rfl

end Contexts

section Ascii

theorem smallForm_ofNat_of_ascii : ∀ codePoint < 128,
    smallForm (Char.ofNat codePoint) = [(Char.ofNat codePoint).toLower] := by
  decide +kernel

/-- The characters of ASCII are mapped one by one. -/
theorem lowercaseAfter_of_ascii {characters : List Char}
    (ascii : ∀ character ∈ characters, character.toNat < 128) (earlier : List Char) :
    lowercaseAfter earlier characters = characters.map Char.toLower := by
  induction characters generalizing earlier with
  | nil => rfl
  | cons character later ih =>
      have isAscii := ascii character List.mem_cons_self
      have small : smallAt earlier character later = [character.toLower] := by
        have form := smallForm_ofNat_of_ascii character.toNat isAscii
        rw [Char.ofNat_toNat] at form
        rw [smallAt, if_neg (by omega), form]
      rw [lowercaseAfter_cons, small,
        ih fun other member => ascii other (List.mem_cons_of_mem character member)]
      rfl

end Ascii

end Text
end RemoteCall
