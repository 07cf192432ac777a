import RemoteCall.Json.Reader
import RemoteCall.Proofs.Json.Number
import RemoteCall.Proofs.Json.StringReader

/-!
# Runs of the document reader

What the machine that reads documents makes of bytes does not depend on where they stand: it comes
through them, or it refuses one of them.  The facts below say how it comes through each part of a
written document: words, strings, keys, whole numbers, and the bytes that separate them.
-/

namespace RemoteCall
namespace Json
namespace Reading

/-- What a reading holds, apart from its place. -/
structure Content where
  containers : List Container
  expectation : Expectation

/-- The reading with this content at a place. -/
def Content.placed (content : Content) (position : Position) : Reading :=
  ⟨content.containers, content.expectation, position⟩

/-- One byte leads from one content to another, wherever it stands. -/
def Moves (embedded : EmbeddedReader) (byte : UInt8) (before after : Content) : Prop :=
  ∀ position, step embedded (before.placed position) byte =
    .ok (after.placed (position.after byte))

/-- Some bytes lead from one content to another, wherever they stand. -/
inductive Leads (embedded : EmbeddedReader) : Bytes → Content → Content → Prop where
  | refl (content : Content) : Leads embedded [] content content
  | cons {byte : UInt8} {later : Bytes} {first next last : Content}
      (moves : Moves embedded byte first next) (rest : Leads embedded later next last) :
      Leads embedded (byte :: later) first last

variable {embedded : EmbeddedReader}

theorem Moves.leads {byte : UInt8} {before after : Content}
    (moves : Moves embedded byte before after) :
    Leads embedded [byte] before after :=
  .cons moves (.refl after)

theorem Leads.trans {bytes later : Bytes} {first next last : Content}
    (start : Leads embedded bytes first next) (rest : Leads embedded later next last) :
    Leads embedded (bytes ++ later) first last := by
  induction start with
  | refl content => exact rest
  | cons moves _ ih => exact .cons moves (ih rest)

theorem Leads.foldlM {bytes : Bytes} {before after : Content}
    (leads : Leads embedded bytes before after) (position : Position) :
    ∃ last, bytes.foldlM (step embedded) (before.placed position) = .ok (after.placed last) := by
  induction leads generalizing position with
  | refl content => exact ⟨position, rfl⟩
  | @cons byte later first next last moves _ ih =>
      obtain ⟨last, folded⟩ := ih (position.after byte)
      refine ⟨last, ?_⟩
      rw [List.foldlM_cons, moves position]
      exact folded

/-- One of some bytes is refused, wherever they stand. -/
def Stalls (embedded : EmbeddedReader) (bytes : Bytes) (before : Content) : Prop :=
  ∀ position, ∃ fault, bytes.foldlM (step embedded) (before.placed position) = .error fault

theorem stalls_of_refused {byte : UInt8} {before : Content}
    (refused : ∀ position, ∃ fault, step embedded (before.placed position) byte = .error fault)
    (later : Bytes) : Stalls embedded (byte :: later) before := by
  intro position
  obtain ⟨fault, isFault⟩ := refused position
  refine ⟨fault, ?_⟩
  rw [List.foldlM_cons, isFault]
  rfl

theorem Stalls.append {bytes : Bytes} {before : Content} (stalls : Stalls embedded bytes before)
    (later : Bytes) : Stalls embedded (bytes ++ later) before := by
  intro position
  obtain ⟨fault, isFault⟩ := stalls position
  refine ⟨fault, ?_⟩
  rw [List.foldlM_append, isFault]
  rfl

theorem Leads.stalls {bytes later : Bytes} {before after : Content}
    (leads : Leads embedded bytes before after) (stalls : Stalls embedded later after) :
    Stalls embedded (bytes ++ later) before := by
  intro position
  obtain ⟨last, folded⟩ := leads.foldlM position
  obtain ⟨fault, isFault⟩ := stalls last
  refine ⟨fault, ?_⟩
  rw [List.foldlM_append, folded]
  exact isFault

/-- The innermost open object, if there is one, does not hold an embedded document. -/
def Unembedded : List Container → Prop
  | .embedding :: _ => False
  | _ => True

theorem unembedded_array (items : List Value) (outer : List Container) :
    Unembedded (.array items :: outer) := trivial

theorem unembedded_object (members : List (String × Value)) (key : String)
    (outer : List Container) : Unembedded (.object members key :: outer) := trivial

theorem complete_unembedded {containers : List Container} (unembedded : Unembedded containers)
    (expectation : Expectation) (position : Position) (value : Value) :
    complete embedded ⟨containers, expectation, position⟩ value =
      .ok ⟨containers, .delimiter value, position⟩ := by
  cases containers with
  | nil => rfl
  | cons container outer =>
      cases container with
      | embedding => exact unembedded.elim
      | array items => rfl
      | object members key => rfl

/-- A value may start. -/
def Ready : Expectation → Prop
  | .value | .firstItem | .laterItem => True
  | _ => False

theorem step_ready {containers : List Container} {expectation : Expectation} {byte : UInt8}
    (unembedded : Unembedded containers) (ready : Ready expectation)
    (solid : isBlank byte = false) (notEnd : byte ≠ 0x5D) (position : Position) :
    step embedded ⟨containers, expectation, position⟩ byte =
      beginValue ⟨containers, expectation, position.after byte⟩ byte := by
  have notBlank : ¬isBlank byte = true := by simp [solid]
  cases expectation with
  | value =>
      rw [step]
      dsimp only
      rw [if_neg notBlank]
      cases containers with
      | nil => rfl
      | cons container outer =>
          cases container with
          | embedding => exact unembedded.elim
          | array items => rfl
          | object members key => rfl
  | firstItem | laterItem =>
      rw [step]
      dsimp only
      rw [if_neg notBlank, if_neg notEnd]
  | _ => exact ready.elim

/-- A byte that starts a value without parts is taken as its start. -/
def Begins (embedded : EmbeddedReader) (before : Content) : Prop :=
  ∀ byte, isBlank byte = false → byte ≠ 0x5B → byte ≠ 0x5D → byte ≠ 0x7B → ∀ position,
    step embedded (before.placed position) byte =
      beginValue (before.placed (position.after byte)) byte

theorem begins_ready {containers : List Container} {expectation : Expectation}
    (unembedded : Unembedded containers) (ready : Ready expectation) :
    Begins embedded ⟨containers, expectation⟩ :=
  fun _ solid _ notEnd _ position => step_ready unembedded ready solid notEnd position

theorem begins_embedding (outer : List Container) :
    Begins embedded ⟨.embedding :: outer, .value⟩ := by
  intro byte solid notBracket _ notBrace position
  have notBlank : ¬isBlank byte = true := by simp [solid]
  rw [Content.placed, step]
  dsimp only
  rw [if_neg notBlank, beginEmbedded, if_neg notBracket, if_neg notBrace]
  rfl

section Words

theorem moves_word {containers : List Container} {byte next : UInt8} {rest : Bytes}
    {value : Value} :
    Moves embedded byte ⟨containers, .word ⟨byte :: next :: rest, value⟩⟩
      ⟨containers, .word ⟨next :: rest, value⟩⟩ := by
  intro position
  rw [Content.placed, step]
  dsimp only
  rw [if_pos rfl]
  rfl

theorem moves_word_end {containers : List Container} (unembedded : Unembedded containers)
    {byte : UInt8} {value : Value} :
    Moves embedded byte ⟨containers, .word ⟨[byte], value⟩⟩ ⟨containers, .delimiter value⟩ := by
  intro position
  rw [Content.placed, step]
  dsimp only
  rw [if_pos rfl]
  exact complete_unembedded unembedded _ _ value

/-- The rest of a word completes its value. -/
theorem leads_word {containers : List Container} (unembedded : Unembedded containers)
    {first : UInt8} {rest : Bytes} {value : Value} :
    Leads embedded (first :: rest) ⟨containers, .word ⟨first :: rest, value⟩⟩
      ⟨containers, .delimiter value⟩ := by
  induction rest generalizing first with
  | nil => exact (moves_word_end unembedded).leads
  | cons next rest ih => exact .cons moves_word ih

end Words

section Strings

theorem leads_string {containers : List Container} {bytes : Bytes} {first last : PartialString}
    (extended : PartialString.Extends bytes first last) :
    Leads embedded bytes ⟨containers, .string first⟩ ⟨containers, .string last⟩ := by
  induction extended with
  | refl text => exact .refl _
  | cons stepped _ ih =>
      refine .cons (fun position => ?_) ih
      rw [Content.placed, step]
      dsimp only
      rw [stepped]
      rfl

theorem leads_key {containers : List Container} {members : List (String × Value)} {bytes : Bytes}
    {first last : PartialString} (extended : PartialString.Extends bytes first last) :
    Leads embedded bytes ⟨containers, .key members first⟩ ⟨containers, .key members last⟩ := by
  induction extended with
  | refl text => exact .refl _
  | cons stepped _ ih =>
      refine .cons (fun position => ?_) ih
      rw [Content.placed, step]
      dsimp only
      rw [stepped]
      rfl

/-- The bytes of a written string after its opening quote. -/
def stringBytes (text : String) : Bytes :=
  (text.toList.flatMap stringCharacter).flatMap String.utf8EncodeChar ++ [0x22]

theorem flatMap_stringText (text : String) :
    (stringText text).flatMap String.utf8EncodeChar = 0x22 :: stringBytes text := by
  rw [stringText, List.flatMap_cons, List.flatMap_append]
  rfl

theorem extends_text (text : String) :
    PartialString.Extends ((text.toList.flatMap stringCharacter).flatMap String.utf8EncodeChar)
      .empty ⟨(Text.encodeUtf8 text).reverse, .none⟩ := by
  have extended := PartialString.extends_characters text.toList []
  rwa [List.append_nil] at extended

theorem leads_stringBytes {containers : List Container} (unembedded : Unembedded containers)
    (text : String) :
    Leads embedded (stringBytes text) ⟨containers, .string .empty⟩
      ⟨containers, .delimiter (.string text)⟩ := by
  refine (leads_string (extends_text text)).trans (Moves.leads fun position => ?_)
  rw [Content.placed, step]
  dsimp only
  rw [PartialString.step_closing_quote]
  exact complete_unembedded unembedded _ _ _

theorem leads_keyBytes {containers : List Container} (members : List (String × Value))
    (key : String) :
    Leads embedded (stringBytes key) ⟨containers, .key members .empty⟩
      ⟨containers, .colon members key⟩ := by
  refine (leads_key (extends_text key)).trans (Moves.leads fun position => ?_)
  rw [Content.placed, step]
  dsimp only
  rw [PartialString.step_closing_quote]
  rfl

end Strings

section Numbers

theorem leads_number {containers : List Container} {bytes : Bytes} {first last : PartialNumber}
    (extended : PartialNumber.Extends bytes first last) :
    Leads embedded bytes ⟨containers, .number first⟩ ⟨containers, .number last⟩ := by
  induction extended with
  | refl number => exact .refl _
  | cons stepped _ ih =>
      refine .cons (fun position => ?_) ih
      rw [Content.placed, step]
      dsimp only
      rw [stepped]
      rfl

/-- The number that has been read when the text of an integer has been. -/
def readInteger (number : Integer) : PartialNumber :=
  .whole (decide (number.value < 0)) number.value.natAbs

theorem solid_digitByte {digit : Nat} (small : digit < 10) :
    isBlank (PartialNumber.digitByte digit) = false := by
  have all : ∀ digit < 10, isBlank (PartialNumber.digitByte digit) = false := by decide
  exact all digit small

theorem step_digitByte {before : Content} (begins : Begins embedded before) {digit : Nat}
    (small : digit < 10) (position : Position) :
    step embedded (before.placed position) (PartialNumber.digitByte digit) =
      beginValue (before.placed (position.after (PartialNumber.digitByte digit)))
        (PartialNumber.digitByte digit) :=
  begins _ (solid_digitByte small) (PartialNumber.digitByte_ne small (by decide))
    (PartialNumber.digitByte_ne small (by decide)) (PartialNumber.digitByte_ne small (by decide))
    position

theorem beginValue_digitByte (reading : Reading) {digit : Nat} (small : digit < 10) :
    beginValue reading (PartialNumber.digitByte digit) =
      .ok { reading with expectation := .number (.whole false digit) } := by
  have notNull : PartialNumber.digitByte digit ≠ 0x6E :=
    PartialNumber.digitByte_ne small (by decide)
  have notTrue : PartialNumber.digitByte digit ≠ 0x74 :=
    PartialNumber.digitByte_ne small (by decide)
  have notFalse : PartialNumber.digitByte digit ≠ 0x66 :=
    PartialNumber.digitByte_ne small (by decide)
  have notQuote : PartialNumber.digitByte digit ≠ 0x22 :=
    PartialNumber.digitByte_ne small (by decide)
  have notBracket : PartialNumber.digitByte digit ≠ 0x5B :=
    PartialNumber.digitByte_ne small (by decide)
  have notBrace : PartialNumber.digitByte digit ≠ 0x7B :=
    PartialNumber.digitByte_ne small (by decide)
  rw [beginValue, if_neg notNull, if_neg notTrue, if_neg notFalse, if_neg notQuote,
    if_neg notBracket, if_neg notBrace, PartialNumber.ofByte?_digitByte small]

/-- A written integer is a number that has been read and may go on. -/
theorem leads_integer {containers : List Container} {expectation : Expectation}
    (begins : Begins embedded ⟨containers, expectation⟩) (number : Integer) :
    Leads embedded ((integerText number).flatMap String.utf8EncodeChar)
      ⟨containers, expectation⟩ ⟨containers, .number (readInteger number)⟩ := by
  have fits : number.value.natAbs < 0x10000000000000000 := by
    have least := number.least_le
    have bound := number.lt_bound
    omega
  obtain ⟨first, rest, small, written, extended⟩ := PartialNumber.extends_toDigits fits
  unfold integerText readInteger
  by_cases negative : number.value < 0
  · rw [if_pos negative, List.flatMap_cons, written, decide_eq_true negative]
    have sign : Moves embedded 0x2D ⟨containers, expectation⟩
        ⟨containers, .number ⟨.sign, true, 0, 0, false, 0⟩⟩ := by
      intro position
      rw [begins _ (by decide) (by decide) (by decide) (by decide)]
      rfl
    refine .cons sign (.cons (fun position => ?_) (leads_number (extended true)))
    rw [Content.placed, step]
    dsimp only
    rw [PartialNumber.step_sign small]
    rfl
  · rw [if_neg negative, written, decide_eq_false negative]
    refine .cons (fun position => ?_) (leads_number (extended false))
    rw [step_digitByte begins small, beginValue_digitByte _ small]
    rfl

end Numbers

/-- A value has been read, though it may be a number that could go on. -/
inductive Held : Value → Expectation → Prop where
  | delimiter (value : Value) : Held value (.delimiter value)
  | integer (number : Integer) : Held (.integer number) (.number (readInteger number))

/-- Some bytes are refused if there is no value, and else lead to where the value has been read. -/
def Yields (embedded : EmbeddedReader) (bytes : Bytes) (before : Content)
    (containers : List Container) : Option Value → Prop
  | none => Stalls embedded bytes before
  | some value =>
      ∃ expectation, Held value expectation ∧
        Leads embedded bytes before ⟨containers, expectation⟩

theorem Held.yields {value : Value} {expectation : Expectation} (held : Held value expectation)
    {bytes : Bytes} {before : Content} {containers : List Container}
    (leads : Leads embedded bytes before ⟨containers, expectation⟩) :
    Yields embedded bytes before containers (some value) :=
  ⟨expectation, held, leads⟩

theorem Leads.yields {bytes later : Bytes} {before after : Content} {containers : List Container}
    {read : Option Value} (leads : Leads embedded bytes before after)
    (yields : Yields embedded later after containers read) :
    Yields embedded (bytes ++ later) before containers read := by
  cases read with
  | none => exact leads.stalls yields
  | some value =>
      obtain ⟨expectation, held, rest⟩ := yields
      exact held.yields (leads.trans rest)

/-- What is made of some bytes after a value depends on the value, if there is one. -/
theorem Yields.bind {bytes later : Bytes} {before : Content} {inner outer : List Container}
    {read : Option Value} {next : Value → Option Value}
    (first : Yields embedded bytes before inner read)
    (rest : ∀ value expectation, Held value expectation →
      Yields embedded later ⟨inner, expectation⟩ outer (next value)) :
    Yields embedded (bytes ++ later) before outer (read.bind next) := by
  cases read with
  | none => exact first.append later
  | some value =>
      obtain ⟨expectation, held, leads⟩ := first
      exact leads.yields (rest value expectation held)

section Separators

variable {containers outer : List Container} {value : Value} {expectation : Expectation}
  (held : Held value expectation)

include held

/-- A byte that separates values comes after the whole value. -/
theorem step_held (unembedded : Unembedded containers) {byte : UInt8}
    (separator : PartialNumber.IsSeparator byte) (position : Position) :
    step embedded ⟨containers, expectation, position⟩ byte =
      delimit ⟨containers, expectation, position.after byte⟩ value byte := by
  cases held with
  | delimiter value => rfl
  | integer number =>
      rw [step]
      dsimp only
      rw [readInteger, PartialNumber.step_separator separator]
      dsimp only
      rw [PartialNumber.finish_whole]
      dsimp only
      rw [complete_unembedded unembedded]

theorem moves_item_comma (items : List Value) :
    Moves embedded 0x2C ⟨.array items :: outer, expectation⟩
      ⟨.array (value :: items) :: outer, .laterItem⟩ := by
  intro position
  rw [Content.placed, step_held held (unembedded_array items outer) (Or.inl rfl)]
  rfl

theorem moves_bracket (items : List Value) :
    Moves embedded 0x5D ⟨.array items :: outer, expectation⟩
      ⟨outer, .delimiter (.array (value :: items).reverse)⟩ := by
  intro position
  rw [Content.placed, step_held held (unembedded_array items outer) (Or.inr (Or.inl rfl))]
  rfl

theorem moves_member_comma (members : List (String × Value)) (key : String) :
    Moves embedded 0x2C ⟨.object members key :: outer, expectation⟩
      ⟨.object members key :: outer, .laterKey (putMember key value members)⟩ := by
  intro position
  rw [Content.placed, step_held held (unembedded_object members key outer) (Or.inl rfl)]
  rfl

theorem moves_brace (members : List (String × Value)) (key : String) :
    Moves embedded 0x7D ⟨.object members key :: outer, expectation⟩
      ⟨outer, .delimiter (.object (putMember key value members))⟩ := by
  intro position
  rw [Content.placed, step_held held (unembedded_object members key outer) (Or.inr (Or.inr rfl))]
  rfl

theorem finish_held (position : Position) :
    finish embedded ⟨[], expectation, position⟩ = .ok value := by
  cases held with
  | delimiter value => rfl
  | integer number =>
      rw [finish]
      dsimp only
      rw [readInteger, PartialNumber.finish_whole]
      rfl

end Separators

end Reading
end Json
end RemoteCall
