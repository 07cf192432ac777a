import RemoteCall.Proofs.Response.Redirections

/-!
# Suggested pauses

An answer may suggest how long its receiver should pause: by a header that spells a positive number
of 64 bits, with blanks around it or without them.  Any other text suggests nothing.  The answer
that asks to try again suggests every number that can be given to it, except zero.
-/

namespace RemoteCall

/-- The number of milliseconds that an answer suggests. -/
def Fields.Suggests (fields : Fields) (milliseconds : Nat) : Prop :=
  ∃ text, fields.read .retryDelay = some text ∧ Text.Spells (Text.trimmed text) milliseconds ∧
    0 < milliseconds ∧ milliseconds < 0x10000000000000000

namespace Fields

variable {fields : Fields} {milliseconds other : Nat}

theorem suggests_iff :
    fields.Suggests milliseconds ↔
      ((fields.read .retryDelay).bind fun text =>
        Text.readNatural? 0x10000000000000000 (Text.trimmed text)) = some milliseconds ∧
        milliseconds ≠ 0 := by
  simp only [Suggests, Option.bind_eq_some_iff, Text.readNatural?_eq_some_iff]
  constructor
  · rintro ⟨text, read, spelled, positive, below⟩
    exact ⟨⟨text, read, spelled, below⟩, Nat.ne_of_gt positive⟩
  · rintro ⟨⟨text, read, spelled, below⟩, nonzero⟩
    exact ⟨text, read, spelled, Nat.pos_of_ne_zero nonzero, below⟩

theorem Suggests.unique (first : fields.Suggests milliseconds) (second : fields.Suggests other) :
    milliseconds = other :=
  Option.some.inj ((suggests_iff.mp first).1.symm.trans (suggests_iff.mp second).1)

end Fields

namespace Response

/-- The delay of an answer that asks to try again, unless it says nothing. -/
def givenDelay (delay : Option UInt64) : Option UInt64 := delay.filter (· ≠ 0)

variable (delay : Option UInt64)

theorem retry_eq :
    retry delay = ((Draft.ofKind .retry).withOptional .retryDelay
      ((givenDelay delay).map fun given => toString given.toNat)).finish := by
  unfold retry givenDelay
  cases delay with
  | none => rfl
  | some given => by_cases zero : given = 0 <;> simp [Option.filter, zero, Draft.withOptional]

theorem retry_read_responseType :
    (retry delay).fields.read .responseType = some (FieldValue.cleaned ResponseType.retry.tag) := by
  rw [retry_eq, Draft.read_finish_responseType, Draft.withOptional_kind]
  · rfl
  · exact Draft.has_withOptional_of_ne _ (by decide)

theorem retry_read_retryDelay :
    (retry delay).fields.read .retryDelay =
      (givenDelay delay).map fun given => toString given.toNat := by
  rw [retry_eq, Draft.read_finish_of_ne _ (by decide), Draft.read_withOptional_self _ rfl]
  cases givenDelay delay with
  | none => rfl
  | some given => rw [Option.map_some, Option.map_some, FieldValue.cleaned_toString]

/-- What is suggested by an answer that asks to try again is what was given to it. -/
theorem suggests_retry {milliseconds : Nat} :
    (retry delay).fields.Suggests milliseconds ↔
      (givenDelay delay).map UInt64.toNat = some milliseconds := by
  rw [Fields.suggests_iff, retry_read_retryDelay]
  cases isGiven : givenDelay delay with
  | none => simp
  | some given =>
      have nonzero : given.toNat ≠ 0 := by
        have kept := (Option.filter_eq_some_iff.mp isGiven).2
        simpa [← UInt64.toNat_inj] using kept
      rw [Option.map_some, Option.bind_some, Text.trimmed_toString,
        Text.readNatural?_toString given.toNat_lt, Option.map_some]
      constructor
      · exact fun suggests => suggests.1
      · rintro same
        cases same
        exact ⟨rfl, nonzero⟩

end Response

namespace Flight

theorem responseKind?_retry (delay : Option UInt64) :
    responseKind? (Response.retry delay).head.fields = some .retry := by
  rw [responseKind?, Response.head, Response.retry_read_responseType, Option.bind_some,
    ResponseType.ofTag?_cleaned_tag]

end Flight
end RemoteCall
