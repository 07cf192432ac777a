import RemoteCall.Proofs.Json.Levels
import RemoteCall.Proofs.Json.RoundTrip

/-!
# Decoding what was encoded

The usual codec gives back a value without double precision numbers exactly if the value does not
nest too deep and no object in it announces an embedded document.  A value that nests too deep is
refused.  The values that documents are decoded to are no exception: they may nest too deep where a
document is embedded, and the embedding key may have become the first one where it was not written
first.
-/

namespace RemoteCall

/-- What becomes of a value that is encoded and decoded again. -/
def Codec.roundTrip (codec : Codec) (value : Json.Value) : Except CodecFault Json.Value :=
  codec.encode value >>= codec.decode

namespace Json

variable {value : Value}

theorem roundTrip_json (value : Value) :
    Codec.json.roundTrip value = Codec.json.decode value.bytes := rfl

theorem neverBare_readWithin (levels : Nat) :
    Value.NeverBare fun text => readWithin levels (Text.encodeUtf8 text) :=
  fun _ _ accepted => (ordered_of_readWithin accepted).2

theorem roundTrip_json_eq_self_iff (exact : value.Exact) :
    Codec.json.roundTrip value = .ok value ↔ value.depth ≤ depthLimit ∧ value.Unannounced := by
  rw [roundTrip_json, decode_json_eq_ok_iff, read_written_eq_ok_iff exact]
  exact Value.reread_eq_self_iff (neverBare_readWithin _) value

theorem roundTrip_json_of_deep (exact : value.Exact) (deep : depthLimit < value.depth) :
    ∃ fault, Codec.json.roundTrip value = .error fault := by
  rw [roundTrip_json]
  cases decoded : Codec.json.decode value.bytes with
  | error fault => exact ⟨fault, rfl⟩
  | ok inner =>
      have reread := (read_written_eq_ok_iff exact inner).mp (decode_json_eq_ok_iff.mp decoded)
      exact absurd (Value.depth_of_reread value 0 reread) (Nat.not_le.mpr deep)

/-- A value without double precision numbers is given back exactly if it nests at most as deep as
arrays and objects may be open at once and announces no embedded document; if it nests deeper, it is
refused.  The same holds of every value that some bytes are decoded to, and if no document is
embedded in the bytes, the value does not nest too deep. -/
theorem json_round_trip :
    (∀ value : Value, value.FloatFree → value.Ordered →
      (Codec.json.roundTrip value = .ok value ↔
        value.depth ≤ depthLimit ∧ value.Unannounced) ∧
      (depthLimit < value.depth → ∃ fault, Codec.json.roundTrip value = .error fault)) ∧
    (∀ document value, Codec.json.decode document = .ok value → value.FloatFree →
      (Codec.json.roundTrip value = .ok value ↔
        value.depth ≤ depthLimit ∧ value.Unannounced)) ∧
    ∀ document value, readWithin 1 document = .ok value →
      Codec.json.decode document = .ok value ∧ value.depth ≤ depthLimit := by
  refine ⟨fun value floatFree ordered => ?_, fun document value decoded floatFree => ?_,
    fun document value alone => ?_⟩
  · have exact : value.Exact := ⟨floatFree, ordered⟩
    exact ⟨roundTrip_json_eq_self_iff exact, roundTrip_json_of_deep exact⟩
  · have ordered := (ordered_of_readWithin (decode_json_eq_ok_iff.mp decoded)).1
    exact roundTrip_json_eq_self_iff ⟨floatFree, ordered⟩
  · exact ⟨decode_json_eq_ok_iff.mpr (read_of_readWithin_one alone),
      depth_of_readWithin_one alone⟩

/-- An empty array inside of so many others. -/
def nestedArrays : Nat → Value
  | 0 => .array []
  | around + 1 => .array [nestedArrays around]

theorem nestedArrays_exact (around : Nat) : (nestedArrays around).Exact := by
  induction around with
  | zero => exact ⟨trivial, trivial⟩
  | succ around ih => exact ⟨⟨ih.floatFree, trivial⟩, ih.ordered, trivial⟩

theorem depth_nestedArrays (around : Nat) : (nestedArrays around).depth = around + 1 := by
  induction around with
  | zero => rfl
  | succ around ih =>
      rw [nestedArrays, Value.depth, Value.depthOfItems, Value.depthOfItems, ih, Nat.max_zero]

/-- A list of parameters is given back, also when it was written with blanks, and 128 arrays inside
of each other are refused. -/
theorem json_round_trip_parameters :
    let parameters := Value.array [.integer Integer.zero, .object [("a", .null)]]
    let document := Text.encodeUtf8 "[0, \x7b \"a\": null \x7d]"
    readWithin 1 document = .ok parameters ∧ Codec.json.decode document = .ok parameters ∧
      Codec.json.roundTrip parameters = .ok parameters ∧
      ∃ fault, Codec.json.roundTrip (nestedArrays 127) = .error fault := by
  intro parameters document
  have alone : readWithin 1 document = .ok parameters := by rfl
  have nested := nestedArrays_exact 127
  have floatFree : parameters.FloatFree := ⟨trivial, ⟨trivial, trivial⟩, trivial⟩
  have unannounced : parameters.Unannounced := ⟨trivial, ⟨rfl, trivial, trivial⟩, trivial⟩
  obtain ⟨decoded, fits⟩ := json_round_trip.2.2 document parameters alone
  refine ⟨alone, decoded, ?_, ?_⟩
  · exact (json_round_trip.2.1 document parameters decoded floatFree).mpr ⟨fits, unannounced⟩
  · exact (json_round_trip.1 (nestedArrays 127) nested.floatFree nested.ordered).2
      (by rw [depth_nestedArrays]; decide)

/-- A value that announces an embedded document is not given back, though it is flat, and bytes may
be decoded to a value that is refused when it is written again. -/
theorem json_round_trip_of_announcement :
    let announcement := Value.object [(embeddingKey, .string "1")]
    let document := Text.encodeUtf8 ("\x7b\"a\":null,\"" ++ embeddingKey ++ "\":\"1\"\x7d")
    announcement.FloatFree ∧ announcement.Ordered ∧ announcement.depth ≤ depthLimit ∧
      Codec.json.roundTrip announcement = .ok (.integer (Integer.ofUInt64 1)) ∧
      Value.integer (Integer.ofUInt64 1) ≠ announcement ∧
      ∃ value, Codec.json.decode document = .ok value ∧ value.FloatFree ∧
        ∃ fault, Codec.json.roundTrip value = .error fault := by
  intro announcement document
  have differs : Value.integer (Integer.ofUInt64 1) ≠ .object [(embeddingKey, .string "1")] := by
    intro same
    cases same
  exact ⟨⟨trivial, trivial⟩, ⟨List.pairwise_singleton _ _, trivial, trivial⟩, by decide, rfl,
    differs, .object [(embeddingKey, .string "1"), ("a", .null)], rfl,
    ⟨trivial, trivial, trivial⟩, _, rfl⟩

end Json
end RemoteCall
