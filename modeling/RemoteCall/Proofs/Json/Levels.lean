import RemoteCall.Proofs.Json.Inheritance

/-!
# Documents in which none is embedded

The value of a document is the same however deep documents may be embedded in each other, as long as
this is as deep as they are.  A document in which none is embedded is read where none may be, and
its value does not nest deeper than arrays and objects may be open at once.
-/

namespace RemoteCall
namespace Json

/-- Whatever documents the first reader accepts, the second reads in the same way. -/
def Refines (fewer more : EmbeddedReader) : Prop :=
  ∀ text inner, fewer text = .ok inner → more text = .ok inner

namespace Reading

variable {fewer more : EmbeddedReader} {reading after : Reading} {value : Value} {byte : UInt8}
variable {containers : List Container} {position : Position}

theorem complete_of_refines (refines : Refines fewer more)
    (completed : reading.complete fewer value = .ok after) :
    reading.complete more value = .ok after := by
  unfold complete at completed ⊢
  split at completed
  case h_1 text isEmbedding =>
    cases document : fewer text with
    | error fault =>
        rw [document] at completed
        cases completed
    | ok inner =>
        rw [document, isEmbedding] at completed
        rw [isEmbedding, refines text inner document]
        exact completed
  case h_2 => cases completed
  case h_3 => exact completed

theorem step_word_of_refines (refines : Refines fewer more) {word : PartialWord}
    (stepped : step fewer ⟨containers, .word word, position⟩ byte = .ok after) :
    step more ⟨containers, .word word, position⟩ byte = .ok after := by
  obtain ⟨rest, value⟩ := word
  unfold step at stepped ⊢
  cases rest with
  | nil => exact stepped
  | cons expected rest =>
      dsimp only at stepped ⊢
      split
      case isTrue same =>
        rw [if_pos same] at stepped
        split
        case isTrue last =>
          rw [if_pos last] at stepped
          exact complete_of_refines refines stepped
        case isFalse more =>
          rw [if_neg more] at stepped
          exact stepped
      case isFalse other =>
        rw [if_neg other] at stepped
        exact stepped

theorem step_number_of_refines (refines : Refines fewer more) {number : PartialNumber}
    (stepped : step fewer ⟨containers, .number number, position⟩ byte = .ok after) :
    step more ⟨containers, .number number, position⟩ byte = .ok after := by
  unfold step at stepped ⊢
  dsimp only at stepped ⊢
  split
  case h_1 extended isExtended =>
    rw [isExtended] at stepped
    exact stepped
  case h_2 kind isRefused =>
    rw [isRefused] at stepped
    exact stepped
  case h_3 ended =>
    rw [ended] at stepped
    dsimp only at stepped
    split
    case h_1 kind isFault =>
      rw [isFault] at stepped
      exact stepped
    case h_2 value finished =>
      rw [finished] at stepped
      dsimp only at stepped
      split at stepped
      case h_1 middle completed =>
        rw [complete_of_refines refines completed]
        exact stepped
      case h_2 => cases stepped

theorem step_string_of_refines (refines : Refines fewer more) {text : PartialString}
    (stepped : step fewer ⟨containers, .string text, position⟩ byte = .ok after) :
    step more ⟨containers, .string text, position⟩ byte = .ok after := by
  unfold step at stepped ⊢
  dsimp only at stepped ⊢
  split
  case h_1 extended isExtended =>
    rw [isExtended] at stepped
    exact stepped
  case h_2 closed isClosed =>
    rw [isClosed] at stepped
    exact complete_of_refines refines stepped
  case h_3 fault isRefused =>
    rw [isRefused] at stepped
    exact stepped

/-- Only where a value without parts is complete does a step depend on the reader for embedded
documents. -/
theorem step_of_refines (refines : Refines fewer more)
    (stepped : reading.step fewer byte = .ok after) : reading.step more byte = .ok after := by
  obtain ⟨containers, expectation, position⟩ := reading
  cases expectation with
  | word word => exact step_word_of_refines refines stepped
  | number number => exact step_number_of_refines refines stepped
  | string text => exact step_string_of_refines refines stepped
  | _ => exact stepped

theorem run_of_refines (refines : Refines fewer more) {bytes : Bytes}
    (ran : bytes.foldlM (step fewer) reading = .ok after) :
    bytes.foldlM (step more) reading = .ok after := by
  induction bytes generalizing reading with
  | nil => exact ran
  | cons byte later ih =>
      rw [List.foldlM_cons] at ran ⊢
      cases stepped : step fewer reading byte with
      | error fault =>
          rw [stepped] at ran
          cases ran
      | ok next =>
          rw [stepped] at ran
          rw [step_of_refines refines stepped]
          exact ih ran

theorem finish_of_refines (refines : Refines fewer more)
    (finished : reading.finish fewer = .ok value) : reading.finish more = .ok value := by
  obtain ⟨containers, expectation, position⟩ := reading
  unfold finish at finished ⊢
  cases expectation with
  | number number =>
      dsimp only at finished ⊢
      split
      case h_1 kind isFault =>
        rw [isFault] at finished
        exact finished
      case h_2 whole isWhole =>
        rw [isWhole] at finished
        dsimp only at finished
        split at finished
        case h_1 middle completed =>
          rw [complete_of_refines refines completed]
          exact finished
        case h_2 => cases finished
  | _ => exact finished

end Reading

/-- What is read stays the same if documents may be embedded deeper. -/
theorem readWithin_succ {levels : Nat} {document : Bytes} {value : Value}
    (accepted : readWithin levels document = .ok value) :
    readWithin (levels + 1) document = .ok value := by
  induction levels generalizing document value with
  | zero => cases accepted
  | succ levels ih =>
      have refines : Refines (fun text => readWithin levels (Text.encodeUtf8 text))
          fun text => readWithin (levels + 1) (Text.encodeUtf8 text) := fun _ _ => ih
      rw [readWithin] at accepted ⊢
      cases ran : document.foldlM
          (Reading.step fun text => readWithin levels (Text.encodeUtf8 text)) Reading.start with
      | error fault =>
          rw [ran] at accepted
          cases accepted
      | ok last =>
          rw [ran] at accepted
          dsimp only at accepted ⊢
          rw [Reading.run_of_refines refines ran]
          exact Reading.finish_of_refines refines accepted

/-- A document in which none is embedded is read as it is where none may be. -/
theorem read_of_readWithin_one {document : Bytes} {value : Value}
    (accepted : readWithin 1 document = .ok value) : read document = .ok value := by
  have deeper : ∀ levels, readWithin (levels + 1) document = .ok value := by
    intro levels
    induction levels with
    | zero => exact accepted
    | succ levels ih => exact readWithin_succ ih
  cases document with
  | nil => cases accepted
  | cons first later => exact deeper later.length

/-- Where no document can be embedded, as many arrays and objects lie inside of each other as may
be open at once. -/
theorem inherited_depth {embedded : EmbeddedReader}
    (none : ∀ text inner, embedded text ≠ .ok inner) :
    Inherited embedded fun opened value => value.depth ≤ depthLimit - opened where
  simple opened value simple := by
    cases value with
    | array items => exact simple.elim
    | object members => exact simple.elim
    | _ => exact Nat.zero_le _
  array opened items room kept := by
    have inside := Value.depthOfItems_le kept
    rw [Value.depth]
    omega
  object opened members room filled := by
    have inside := Value.depthOfMembers_le filled.values
    rw [Value.depth]
    omega
  document _ text inner document := absurd document (none text inner)
  outward opened value kept := by omega

/-- A document in which none is embedded does not nest too deep. -/
theorem depth_of_readWithin_one {document : Bytes} {value : Value}
    (accepted : readWithin 1 document = .ok value) : value.depth ≤ depthLimit :=
  (inherited_depth fun _ _ embedded => by cases embedded).readWithin accepted

end Json
end RemoteCall
