import RemoteCall.Proofs.Json.Rereading

/-!
# What all values that are read have in common

A property that simple values have and that arrays and objects inherit from their parts holds of
every value that is read: the reader keeps it for all parts of the arrays and objects that are still
open.  A property may depend on how many arrays and objects lie around a value.  In this way members
are found to be listed by increasing key.
-/

namespace RemoteCall
namespace Json

namespace Value

/-- The value is neither an array nor an object. -/
def Simple : Value → Prop
  | .array _ | .object _ => False
  | _ => True

end Value

section Members

variable {key : String} {value : Value} {members : List (String × Value)}

theorem mem_putMember {member : String × Value} (isMember : member ∈ putMember key value members) :
    member = (key, value) ∨ member ∈ members := by
  induction members with
  | nil => exact .inl (List.mem_singleton.mp isMember)
  | cons other later ih =>
      obtain ⟨otherKey, otherValue⟩ := other
      rw [putMember] at isMember
      split at isMember
      · exact List.mem_cons.mp isMember
      · split at isMember
        · exact (List.mem_cons.mp isMember).imp_right (List.mem_cons_of_mem _)
        · rcases List.mem_cons.mp isMember with rfl | isLater
          · exact .inr List.mem_cons_self
          · exact (ih isLater).imp_right (List.mem_cons_of_mem _)

/-- Keys that increase still do when a member is put in its place. -/
theorem pairwise_putMember (sorted : (members.map Prod.fst).Pairwise (· < ·)) :
    ((putMember key value members).map Prod.fst).Pairwise (· < ·) := by
  induction members with
  | nil => exact List.pairwise_singleton _ _
  | cons other later ih =>
      obtain ⟨otherKey, otherValue⟩ := other
      obtain ⟨first, rest⟩ := List.pairwise_cons.mp sorted
      rw [putMember]
      split
      case isTrue before =>
        refine List.pairwise_cons.mpr ⟨fun laterKey isLater => ?_, sorted⟩
        rcases List.mem_cons.mp isLater with rfl | isLater
        · exact before
        · exact String.lt_trans before (first laterKey isLater)
      case isFalse notBefore =>
        split
        case isTrue same =>
          subst same
          exact sorted
        case isFalse notSame =>
          have after : otherKey < key := Decidable.byContradiction fun notAfter =>
            notSame (String.le_antisymm (String.not_lt.mp notAfter) (String.not_lt.mp notBefore))
          refine List.pairwise_cons.mpr ⟨fun laterKey isLater => ?_, ih rest⟩
          obtain ⟨member, isMember, rfl⟩ := List.mem_map.mp isLater
          rcases mem_putMember isMember with rfl | isMember
          · exact after
          · exact first member.1 (List.mem_map_of_mem isMember)

theorem putMember_ne_nil : putMember key value members ≠ [] := by
  cases members with
  | nil => exact List.cons_ne_nil _ _
  | cons other later =>
      obtain ⟨otherKey, otherValue⟩ := other
      rw [putMember]
      split
      · exact List.cons_ne_nil _ _
      · split
        · exact List.cons_ne_nil _ _
        · exact List.cons_ne_nil _ _

/-- An object is bare only if the embedding key came first. -/
theorem not_bare_putMember (notBare : ¬(Value.object members).Bare)
    (first : members = [] → key ≠ embeddingKey) :
    ¬(Value.object (putMember key value members)).Bare := by
  cases members with
  | nil => exact first rfl
  | cons other later =>
      obtain ⟨otherKey, otherValue⟩ := other
      rw [putMember]
      split
      case isTrue => exact id
      case isFalse =>
        split
        -- A member that is replaced keeps its key.
        case isTrue same =>
          subst same
          cases later with
          | nil => exact notBare
          | cons third later => exact id
        case isFalse =>
          cases rest : putMember key value later with
          | nil => exact absurd rest putMember_ne_nil
          | cons third rest => exact id

end Members

/-- Members that have been read, with a property of the values inside of so many arrays and
objects. -/
structure Filled (holds : Nat → Value → Prop) (opened : Nat) (members : List (String × Value)) :
    Prop where
  values : ∀ member ∈ members, holds opened member.2
  sorted : (members.map Prod.fst).Pairwise (· < ·)
  notBare : ¬(Value.object members).Bare

/-- A property that everything that is read has, if its parts have it. -/
structure Inherited (embedded : EmbeddedReader) (holds : Nat → Value → Prop) : Prop where
  simple : ∀ opened value, value.Simple → holds opened value
  array : ∀ opened items, opened < depthLimit → (∀ item ∈ items, holds (opened + 1) item) →
    holds opened (.array items)
  object : ∀ opened members, opened < depthLimit → Filled holds (opened + 1) members →
    holds opened (.object members)
  document : ∀ opened text inner, embedded text = .ok inner → holds opened inner
  outward : ∀ opened value, holds (opened + 1) value → holds opened value

variable {embedded : EmbeddedReader} {holds : Nat → Value → Prop}

theorem Filled.nil {opened : Nat} : Filled holds opened [] :=
  ⟨fun _ isMember => absurd isMember List.not_mem_nil, .nil, id⟩

theorem Filled.put {opened : Nat} {key : String} {value : Value}
    {members : List (String × Value)} (filled : Filled holds opened members)
    (first : members = [] → key ≠ embeddingKey) (kept : holds opened value) :
    Filled holds opened (putMember key value members) where
  values member isMember := by
    rcases mem_putMember isMember with rfl | isMember
    · exact kept
    · exact filled.values member isMember
  sorted := pairwise_putMember filled.sorted
  notBare := not_bare_putMember filled.notBare first

namespace PartialNumber

variable {number : PartialNumber} {value : Value}

theorem simple_of_inexact (finished : number.inexact = .ok value) : value.Simple := by
  rw [inexact] at finished
  split at finished
  · cases finished
    trivial
  · cases finished

theorem simple_of_finish (finished : number.finish = .ok value) : value.Simple := by
  rw [finish] at finished
  cases stage : number.stage with
  | sign | point | exponentMark | exponentSign =>
      rw [stage] at finished
      cases finished
  | zero | whole =>
      rw [stage] at finished
      dsimp only at finished
      split at finished
      · cases finished
        trivial
      · split at finished
        · cases finished
          trivial
        · cases finished
          trivial
  | wholeOverflow | fraction | fractionOverflow | exponent =>
      rw [stage] at finished
      exact simple_of_inexact finished
  | vanishing =>
      rw [stage] at finished
      cases finished
      trivial

end PartialNumber

namespace Reading

/-- The parts that have been read of the arrays and objects that are open have the property. -/
def Enclosed (holds : Nat → Value → Prop) : List Container → Prop
  | [] => True
  | .array items :: outer =>
      (∀ item ∈ items, holds (outer.length + 1) item) ∧ Enclosed holds outer
  | .object members key :: outer =>
      Filled holds (outer.length + 1) members ∧ (members = [] → key ≠ embeddingKey) ∧
        Enclosed holds outer
  | .embedding :: outer => Enclosed holds outer

/-- What the machine is in the middle of has the property inside of the open arrays and objects. -/
def Awaited (holds : Nat → Value → Prop) (containers : List Container) : Expectation → Prop
  | .delimiter value => holds containers.length value
  | .word word => word.value.Simple
  | .laterKey members | .colon members _ | .key members _ =>
      Filled holds (containers.tail.length + 1) members
  | _ => True

structure Sound (holds : Nat → Value → Prop) (reading : Reading) : Prop where
  room : reading.containers.length ≤ depthLimit
  enclosed : Enclosed holds reading.containers
  awaited : Awaited holds reading.containers reading.expectation

variable {reading after : Reading} {value : Value} {byte : UInt8}
variable {containers outer : List Container} {expectation : Expectation} {position : Position}

theorem Enclosed.tail (enclosed : Enclosed holds containers) :
    Enclosed holds containers.tail := by
  cases containers with
  | nil => trivial
  | cons container outer =>
      cases container with
      | array items => exact enclosed.2
      | object members key => exact enclosed.2.2
      | embedding => exact enclosed

theorem Sound.placed (sound : Sound holds reading) (position : Position) :
    Sound holds { reading with position := position } :=
  ⟨sound.room, sound.enclosed, sound.awaited⟩

theorem Sound.expecting (sound : Sound holds reading)
    (awaited : Awaited holds reading.containers expectation) :
    Sound holds { reading with expectation := expectation } :=
  ⟨sound.room, sound.enclosed, awaited⟩

theorem sound_of_enter {container : Container}
    (entered : reading.enter container expectation = .ok after)
    (enclosed : Enclosed holds (container :: reading.containers))
    (awaited : Awaited holds (container :: reading.containers) expectation) :
    Sound holds after := by
  rw [enter] at entered
  split at entered
  case isTrue room =>
    cases entered
    exact ⟨room, enclosed, awaited⟩
  case isFalse => cases entered

theorem Sound.fewer (sound : Sound holds reading) :
    reading.containers.tail.length < depthLimit := by
  have room := sound.room
  rw [List.length_tail]
  unfold depthLimit at room ⊢
  omega

theorem Sound.leave (sound : Sound holds reading)
    (kept : holds reading.containers.tail.length value) : Sound holds (reading.leave value) :=
  ⟨Nat.le_of_lt sound.fewer, sound.enclosed.tail, kept⟩

theorem Sound.beginValue (sound : Sound holds reading)
    (begun : reading.beginValue byte = .ok after) : Sound holds after := by
  rw [Reading.beginValue] at begun
  split at begun
  · cases begun
    exact sound.expecting trivial
  split at begun
  · cases begun
    exact sound.expecting trivial
  split at begun
  · cases begun
    exact sound.expecting trivial
  split at begun
  · cases begun
    exact sound.expecting trivial
  split at begun
  · exact sound_of_enter begun ⟨fun _ isItem => absurd isItem List.not_mem_nil, sound.enclosed⟩
      trivial
  split at begun
  · exact sound_of_enter begun ⟨.nil, fun _ => by decide, sound.enclosed⟩ trivial
  split at begun
  · cases begun
    exact sound.expecting trivial
  · cases begun

theorem Sound.beginEmbedded (sound : Sound holds reading)
    (begun : reading.beginEmbedded byte = .ok after) : Sound holds after := by
  rw [Reading.beginEmbedded] at begun
  split at begun
  · cases begun
  split at begun
  · cases begun
  · exact sound.beginValue begun

theorem Sound.beginKey (sound : Sound holds reading) {members : List (String × Value)}
    (filled : Filled holds (reading.containers.tail.length + 1) members)
    (begun : reading.beginKey members byte = .ok after) : Sound holds after := by
  rw [Reading.beginKey] at begun
  split at begun
  · cases begun
    exact sound.expecting filled
  · cases begun

theorem Sound.nameMember (sound : Sound holds reading) {members : List (String × Value)}
    (filled : Filled holds (reading.containers.tail.length + 1) members) (key : String) :
    Sound holds (reading.nameMember members key) := by
  refine ⟨sound.fewer, ?_, trivial⟩
  rw [Reading.nameMember]
  dsimp only
  split
  case isTrue => exact sound.enclosed.tail
  case isFalse unannounced =>
    refine ⟨filled, ?_, sound.enclosed.tail⟩
    -- The embedding key opens an embedded document where it comes first, so here it does not.
    rintro rfl rfl
    exact unannounced (by simp)

theorem eq_of_finishValue {read : Value} (finished : reading.finishValue read = .ok value) :
    reading.containers = [] ∧ read = value := by
  unfold finishValue at finished
  split at finished
  case h_1 outermost =>
    cases finished
    exact ⟨outermost, rfl⟩
  · cases finished
  · cases finished
  · cases finished

section Inherited

variable (inherited : Inherited embedded holds)

include inherited

theorem Sound.complete (sound : Sound holds reading) (simple : value.Simple)
    (completed : reading.complete embedded value = .ok after) : Sound holds after := by
  unfold Reading.complete at completed
  split at completed
  case h_1 text _ =>
    split at completed
    case h_1 inner document =>
      cases completed
      exact sound.expecting (inherited.document _ _ inner document)
    case h_2 => cases completed
  case h_2 => cases completed
  case h_3 =>
    cases completed
    exact sound.expecting (inherited.simple _ _ simple)

omit inherited in
theorem Sound.delimit_outermost (sound : Sound holds ⟨[], .delimiter value, position⟩)
    (delimited : Reading.delimit ⟨[], expectation, position⟩ value byte = .ok after) :
    Sound holds after := by
  unfold Reading.delimit at delimited
  dsimp only at delimited
  split at delimited
  · cases delimited
    exact sound
  · cases delimited

theorem Sound.delimit_array {items : List Value}
    (sound : Sound holds ⟨.array items :: outer, .delimiter value, position⟩)
    (delimited : Reading.delimit ⟨.array items :: outer, expectation, position⟩ value byte =
      .ok after) : Sound holds after := by
  obtain ⟨before, enclosed⟩ := sound.enclosed
  have read : ∀ item ∈ value :: items, holds (outer.length + 1) item :=
    List.forall_mem_cons.mpr ⟨sound.awaited, before⟩
  unfold Reading.delimit at delimited
  dsimp only at delimited
  split at delimited
  · cases delimited
    exact sound
  split at delimited
  · cases delimited
    exact ⟨sound.room, ⟨read, enclosed⟩, trivial⟩
  split at delimited
  · cases delimited
    refine sound.leave (inherited.array _ _ sound.fewer fun item isItem => ?_)
    exact read item (List.mem_reverse.mp isItem)
  · cases delimited

theorem Sound.delimit_object {members : List (String × Value)} {key : String}
    (sound : Sound holds ⟨.object members key :: outer, .delimiter value, position⟩)
    (delimited : Reading.delimit ⟨.object members key :: outer, expectation, position⟩ value byte =
      .ok after) : Sound holds after := by
  obtain ⟨before, first, _⟩ := sound.enclosed
  have read := before.put first sound.awaited
  unfold Reading.delimit at delimited
  dsimp only at delimited
  split at delimited
  · cases delimited
    exact sound
  split at delimited
  · cases delimited
    exact sound.expecting read
  split at delimited
  · cases delimited
    exact sound.leave (inherited.object _ _ sound.fewer read)
  · cases delimited

theorem Sound.delimit_embedding
    (sound : Sound holds ⟨.embedding :: outer, .delimiter value, position⟩)
    (delimited : Reading.delimit ⟨.embedding :: outer, expectation, position⟩ value byte =
      .ok after) : Sound holds after := by
  unfold Reading.delimit at delimited
  dsimp only at delimited
  split at delimited
  · cases delimited
    exact sound
  split at delimited
  · cases delimited
  split at delimited
  · cases delimited
    exact sound.leave (inherited.outward _ _ sound.awaited)
  · cases delimited

theorem Sound.delimit (sound : Sound holds reading)
    (kept : holds reading.containers.length value)
    (delimited : reading.delimit value byte = .ok after) : Sound holds after := by
  obtain ⟨containers, expectation, position⟩ := reading
  have waiting : Sound holds ⟨containers, .delimiter value, position⟩ := sound.expecting kept
  cases containers with
  | nil => exact waiting.delimit_outermost delimited
  | cons container outer =>
      cases container with
      | array items => exact waiting.delimit_array inherited delimited
      | object members key => exact waiting.delimit_object inherited delimited
      | embedding => exact waiting.delimit_embedding inherited delimited

omit inherited in
theorem Sound.step_value (sound : Sound holds ⟨containers, .value, position⟩)
    (stepped : Reading.step embedded ⟨containers, .value, position⟩ byte = .ok after) :
    Sound holds after := by
  have moved := sound.placed (position.after byte)
  unfold Reading.step at stepped
  dsimp only at stepped
  split at stepped
  · cases stepped
    exact moved
  split at stepped
  · exact moved.beginEmbedded stepped
  · exact moved.beginValue stepped

theorem Sound.step_firstItem (sound : Sound holds ⟨containers, .firstItem, position⟩)
    (stepped : Reading.step embedded ⟨containers, .firstItem, position⟩ byte = .ok after) :
    Sound holds after := by
  have moved := sound.placed (position.after byte)
  unfold Reading.step at stepped
  dsimp only at stepped
  split at stepped
  · cases stepped
    exact moved
  split at stepped
  · cases stepped
    exact moved.leave (inherited.array _ [] moved.fewer fun _ isItem =>
      absurd isItem List.not_mem_nil)
  · exact moved.beginValue stepped

omit inherited in
theorem Sound.step_laterItem (sound : Sound holds ⟨containers, .laterItem, position⟩)
    (stepped : Reading.step embedded ⟨containers, .laterItem, position⟩ byte = .ok after) :
    Sound holds after := by
  have moved := sound.placed (position.after byte)
  unfold Reading.step at stepped
  dsimp only at stepped
  split at stepped
  · cases stepped
    exact moved
  split at stepped
  · cases stepped
  · exact moved.beginValue stepped

theorem Sound.step_firstKey (sound : Sound holds ⟨containers, .firstKey, position⟩)
    (stepped : Reading.step embedded ⟨containers, .firstKey, position⟩ byte = .ok after) :
    Sound holds after := by
  have moved := sound.placed (position.after byte)
  unfold Reading.step at stepped
  dsimp only at stepped
  split at stepped
  · cases stepped
    exact moved
  split at stepped
  · cases stepped
    exact moved.leave (inherited.object _ [] moved.fewer .nil)
  · exact moved.beginKey .nil stepped

omit inherited in
theorem Sound.step_laterKey {members : List (String × Value)}
    (sound : Sound holds ⟨containers, .laterKey members, position⟩)
    (stepped : Reading.step embedded ⟨containers, .laterKey members, position⟩ byte = .ok after) :
    Sound holds after := by
  have moved := sound.placed (position.after byte)
  unfold Reading.step at stepped
  dsimp only at stepped
  split at stepped
  · cases stepped
    exact moved
  split at stepped
  · cases stepped
  · exact moved.beginKey moved.awaited stepped

omit inherited in
theorem Sound.step_colon {members : List (String × Value)} {key : String}
    (sound : Sound holds ⟨containers, .colon members key, position⟩)
    (stepped : Reading.step embedded ⟨containers, .colon members key, position⟩ byte = .ok after) :
    Sound holds after := by
  have moved := sound.placed (position.after byte)
  unfold Reading.step at stepped
  dsimp only at stepped
  split at stepped
  · cases stepped
    exact moved
  split at stepped
  · cases stepped
    exact moved.nameMember moved.awaited key
  · cases stepped

omit inherited in
theorem Sound.step_key {members : List (String × Value)} {text : PartialString}
    (sound : Sound holds ⟨containers, .key members text, position⟩)
    (stepped : Reading.step embedded ⟨containers, .key members text, position⟩ byte = .ok after) :
    Sound holds after := by
  have moved := sound.placed (position.after byte)
  unfold Reading.step at stepped
  dsimp only at stepped
  split at stepped
  · cases stepped
    exact moved.expecting moved.awaited
  · cases stepped
    exact moved.expecting moved.awaited
  · cases stepped

theorem Sound.step_word {word : PartialWord}
    (sound : Sound holds ⟨containers, .word word, position⟩)
    (stepped : Reading.step embedded ⟨containers, .word word, position⟩ byte = .ok after) :
    Sound holds after := by
  have moved := sound.placed (position.after byte)
  obtain ⟨rest, value⟩ := word
  unfold Reading.step at stepped
  cases rest with
  | nil => exact moved.delimit inherited (inherited.simple _ _ moved.awaited) stepped
  | cons expected rest =>
      dsimp only at stepped
      split at stepped
      · split at stepped
        · exact moved.complete inherited moved.awaited stepped
        · cases stepped
          exact moved.expecting moved.awaited
      · cases stepped

theorem Sound.step_number {number : PartialNumber}
    (sound : Sound holds ⟨containers, .number number, position⟩)
    (stepped : Reading.step embedded ⟨containers, .number number, position⟩ byte = .ok after) :
    Sound holds after := by
  have moved := sound.placed (position.after byte)
  unfold Reading.step at stepped
  dsimp only at stepped
  split at stepped
  · cases stepped
    exact moved.expecting trivial
  · cases stepped
  split at stepped
  · cases stepped
  case h_2 value finished =>
    split at stepped
    -- The byte after a number is the first to tell that the number is complete.
    · exact moved.delimit inherited
        (inherited.simple _ _ (PartialNumber.simple_of_finish finished)) stepped
    · cases stepped

theorem Sound.step_string {text : PartialString}
    (sound : Sound holds ⟨containers, .string text, position⟩)
    (stepped : Reading.step embedded ⟨containers, .string text, position⟩ byte = .ok after) :
    Sound holds after := by
  have moved := sound.placed (position.after byte)
  unfold Reading.step at stepped
  dsimp only at stepped
  split at stepped
  · cases stepped
    exact moved.expecting trivial
  case h_2 read _ =>
    have simple : (Value.string read).Simple := trivial
    exact moved.complete inherited simple stepped
  · cases stepped

/-- One byte keeps the property for all that has been read, whatever the reader waits for. -/
theorem Sound.step (sound : Sound holds reading)
    (stepped : reading.step embedded byte = .ok after) : Sound holds after := by
  obtain ⟨containers, expectation, position⟩ := reading
  cases expectation with
  | value => exact sound.step_value stepped
  | firstItem => exact sound.step_firstItem inherited stepped
  | laterItem => exact sound.step_laterItem stepped
  | firstKey => exact sound.step_firstKey inherited stepped
  | laterKey members => exact sound.step_laterKey stepped
  | colon members key => exact sound.step_colon stepped
  | key members text => exact sound.step_key stepped
  | word word => exact sound.step_word inherited stepped
  | number number => exact sound.step_number inherited stepped
  | string text => exact sound.step_string inherited stepped
  | delimiter value =>
      exact (sound.placed (position.after byte)).delimit inherited sound.awaited stepped

theorem Sound.run {bytes : Bytes} (sound : Sound holds reading)
    (ran : bytes.foldlM (Reading.step embedded) reading = .ok after) : Sound holds after := by
  induction bytes generalizing reading with
  | nil =>
      cases ran
      exact sound
  | cons byte later ih =>
      rw [List.foldlM_cons] at ran
      cases stepped : Reading.step embedded reading byte with
      | error fault =>
          rw [stepped] at ran
          cases ran
      | ok next =>
          rw [stepped] at ran
          exact ih (sound.step inherited stepped) ran

theorem Sound.finish (sound : Sound holds reading)
    (finished : reading.finish embedded = .ok value) : holds 0 value := by
  obtain ⟨containers, expectation, position⟩ := reading
  unfold Reading.finish at finished
  cases expectation with
  | value | laterItem | laterKey | word | firstItem | firstKey | colon | key | string =>
      cases finished
  | number number =>
      dsimp only at finished
      split at finished
      · cases finished
      case h_2 read whole =>
        split at finished
        · obtain ⟨_, rfl⟩ := eq_of_finishValue finished
          exact inherited.simple 0 _ (PartialNumber.simple_of_finish whole)
        · cases finished
  | delimiter read =>
      obtain ⟨outermost, rfl⟩ := eq_of_finishValue finished
      have kept := sound.awaited
      dsimp only at outermost
      subst outermost
      exact kept

end Inherited

end Reading

/-- An inherited property holds of the value of every document. -/
theorem Inherited.readWithin {levels : Nat}
    (inherited : Inherited (fun text => readWithin levels (Text.encodeUtf8 text)) holds)
    {document : Bytes} {value : Value} (accepted : readWithin (levels + 1) document = .ok value) :
    holds 0 value := by
  rw [Json.readWithin] at accepted
  cases ran : document.foldlM
      (Reading.step fun text => Json.readWithin levels (Text.encodeUtf8 text)) Reading.start with
  | error fault =>
      rw [ran] at accepted
      cases accepted
  | ok last =>
      rw [ran] at accepted
      have start : Reading.Sound holds Reading.start := ⟨Nat.zero_le _, trivial, trivial⟩
      exact (start.run inherited ran).finish inherited accepted

namespace Value

theorem orderedItems_iff {items : List Value} :
    OrderedItems items ↔ ∀ item ∈ items, item.Ordered := by
  induction items with
  | nil => simp [OrderedItems]
  | cons item later ih => rw [OrderedItems, ih, List.forall_mem_cons]

theorem orderedMembers_iff {members : List (String × Value)} :
    OrderedMembers members ↔ ∀ member ∈ members, member.2.Ordered := by
  induction members with
  | nil => simp [OrderedMembers]
  | cons member later ih => rw [OrderedMembers, ih, List.forall_mem_cons]

theorem depthOfItems_le {items : List Value} {bound : Nat}
    (bounded : ∀ item ∈ items, item.depth ≤ bound) : depthOfItems items ≤ bound := by
  induction items with
  | nil => exact Nat.zero_le bound
  | cons item later ih =>
      obtain ⟨first, rest⟩ := List.forall_mem_cons.mp bounded
      exact Nat.max_le.mpr ⟨first, ih rest⟩

theorem depthOfMembers_le {members : List (String × Value)} {bound : Nat}
    (bounded : ∀ member ∈ members, member.2.depth ≤ bound) : depthOfMembers members ≤ bound := by
  induction members with
  | nil => exact Nat.zero_le bound
  | cons member later ih =>
      obtain ⟨first, rest⟩ := List.forall_mem_cons.mp bounded
      exact Nat.max_le.mpr ⟨first, ih rest⟩

end Value

/-- Members are listed by increasing key, and no object is bare, whatever is embedded. -/
theorem inherited_ordered
    (document : ∀ text inner, embedded text = .ok inner → inner.Ordered ∧ ¬inner.Bare) :
    Inherited embedded fun _ value => value.Ordered ∧ ¬value.Bare where
  simple _ value simple := by
    cases value with
    | array items => exact simple.elim
    | object members => exact simple.elim
    | _ => exact ⟨trivial, id⟩
  array _ items _ kept := ⟨Value.orderedItems_iff.mpr fun item isItem => (kept item isItem).1, id⟩
  object _ members _ filled :=
    ⟨⟨filled.sorted, Value.orderedMembers_iff.mpr fun member isMember =>
      (filled.values member isMember).1⟩, filled.notBare⟩
  document _ := document
  outward _ _ kept := kept

theorem ordered_of_readWithin {levels : Nat} {document : Bytes} {value : Value}
    (accepted : readWithin levels document = .ok value) : value.Ordered ∧ ¬value.Bare := by
  induction levels generalizing document value with
  | zero => cases accepted
  | succ levels ih =>
      exact (inherited_ordered fun text inner document => ih document).readWithin accepted

end Json
end RemoteCall
