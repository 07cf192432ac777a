import RemoteCall.Proofs.Json.Reader
import RemoteCall.Proofs.Json.Rereading
import RemoteCall.Service.Codec

/-!
# Reading written documents

The reader comes through the written form of a value part by part: after each part it holds what
that part reads as, inside the arrays and objects that were open before.  What it makes of the whole
is what is read in place of the value, so a value that is written and read again is the same value
if it does not nest too deep and announces no embedded document.
-/

namespace RemoteCall
namespace Json

namespace Value

/-- What a value must be to be read back as it was written. -/
structure Readable (value : Value) : Prop where
  floatFree : value.FloatFree
  ordered : value.Ordered
  unannounced : value.Unannounced

/-- What a value must be for its written form to be known. -/
structure Exact (value : Value) : Prop where
  floatFree : value.FloatFree
  ordered : value.Ordered

structure ExactItems (items : List Value) : Prop where
  floatFree : FloatFreeItems items
  ordered : OrderedItems items

/-- What the members of an object must be, apart from their keys. -/
structure ExactMembers (members : List (String × Value)) : Prop where
  floatFree : FloatFreeMembers members
  ordered : OrderedMembers members

variable {item value : Value} {inside : List Value} {key : String}
  {named : List (String × Value)}

theorem Readable.exact (readable : value.Readable) : value.Exact :=
  ⟨readable.floatFree, readable.ordered⟩

theorem Exact.items (exact : (array inside).Exact) : ExactItems inside :=
  ⟨exact.floatFree, exact.ordered⟩

theorem Exact.members (exact : (object named).Exact) : ExactMembers named :=
  ⟨exact.floatFree, exact.ordered.2⟩

theorem ExactItems.head (exact : ExactItems (item :: inside)) : item.Exact :=
  ⟨exact.floatFree.1, exact.ordered.1⟩

theorem ExactItems.tail (exact : ExactItems (item :: inside)) : ExactItems inside :=
  ⟨exact.floatFree.2, exact.ordered.2⟩

theorem ExactMembers.head (exact : ExactMembers ((key, value) :: named)) : value.Exact :=
  ⟨exact.floatFree.1, exact.ordered.1⟩

theorem ExactMembers.tail (exact : ExactMembers ((key, value) :: named)) : ExactMembers named :=
  ⟨exact.floatFree.2, exact.ordered.2⟩

end Value

/-- A member whose key comes after all others is put at the end. -/
theorem putMember_last {key : String} {value : Value} {members : List (String × Value)}
    (last : ∀ member ∈ members, member.1 < key) :
    putMember key value members = members ++ [(key, value)] := by
  induction members with
  | nil => rfl
  | cons member later ih =>
      obtain ⟨otherKey, otherValue⟩ := member
      have before : otherKey < key := last (otherKey, otherValue) (by simp)
      have notAfter : ¬key < otherKey := String.lt_asymm before
      have notSame : ¬key = otherKey := by
        rintro rfl
        exact String.lt_irrefl _ before
      rw [putMember, if_neg notAfter, if_neg notSame,
        ih fun other member => last other (by simp [member]), List.cons_append]

/-- Where keys increase, a key comes after all those before it. -/
theorem last_of_pairwise {key : String} {members : List (String × Value)} {later : List String}
    (sorted : (members.map Prod.fst ++ key :: later).Pairwise (· < ·)) :
    ∀ member ∈ members, member.1 < key := by
  rw [List.pairwise_append] at sorted
  intro member isMember
  exact sorted.2.2 member.1 (List.mem_map_of_mem isMember) key (by simp)

namespace Reading

variable {embedded : EmbeddedReader}

section Containers

variable {containers outer : List Container} {expectation : Expectation}

theorem moves_close_array :
    Moves embedded 0x5D ⟨.array [] :: outer, .firstItem⟩ ⟨outer, .delimiter (.array [])⟩ :=
  fun _ => rfl

theorem moves_close_object :
    Moves embedded 0x7D ⟨.object [] "" :: outer, .firstKey⟩ ⟨outer, .delimiter (.object [])⟩ :=
  fun _ => rfl

theorem moves_first_quote :
    Moves embedded 0x22 ⟨containers, .firstKey⟩ ⟨containers, .key [] .empty⟩ :=
  fun _ => rfl

theorem moves_later_quote (members : List (String × Value)) :
    Moves embedded 0x22 ⟨containers, .laterKey members⟩ ⟨containers, .key members .empty⟩ :=
  fun _ => rfl

/-- A bracket or brace is refused where too many are open, and else what follows it counts. -/
theorem yields_enter {byte : UInt8} {rest : Bytes} {container : Container}
    {inside : Expectation} {read : Option Value}
    (opens : ∀ position, step embedded ((Content.mk containers expectation).placed position) byte =
      enter ⟨containers, expectation, position.after byte⟩ container inside)
    (yields : Yields embedded rest ⟨container :: containers, inside⟩ containers read) :
    Yields embedded (byte :: rest) ⟨containers, expectation⟩ containers
      (if containers.length < depthLimit then read else none) := by
  split
  case isTrue room =>
    have moves : Moves embedded byte ⟨containers, expectation⟩
        ⟨container :: containers, inside⟩ := by
      intro position
      rw [opens, enter]
      dsimp only
      rw [if_pos room]
      rfl
    exact moves.leads.yields yields
  case isFalse full =>
    refine stalls_of_refused (fun position => ⟨⟨.tooDeep, position.after byte⟩, ?_⟩) rest
    rw [opens, enter]
    dsimp only
    rw [if_neg full]

theorem step_bracket (unembedded : Unembedded containers) (ready : Ready expectation)
    (position : Position) :
    step embedded ((Content.mk containers expectation).placed position) 0x5B =
      enter ⟨containers, expectation, position.after 0x5B⟩ (.array []) .firstItem := by
  rw [Content.placed, step_ready unembedded ready (by decide) (by decide)]
  rfl

theorem step_brace (unembedded : Unembedded containers) (ready : Ready expectation)
    (position : Position) :
    step embedded ((Content.mk containers expectation).placed position) 0x7B =
      enter ⟨containers, expectation, position.after 0x7B⟩ (.object [] "") .firstKey := by
  rw [Content.placed, step_ready unembedded ready (by decide) (by decide)]
  rfl

/-- A key and the colon after it name the member that comes next. -/
theorem leads_name {container : Container} {members : List (String × Value)} {key : String}
    (quote : Moves embedded 0x22 ⟨container :: outer, expectation⟩
      ⟨container :: outer, .key members .empty⟩) :
    Leads embedded (0x22 :: (stringBytes key ++ [0x3A])) ⟨container :: outer, expectation⟩
      ⟨(if members.isEmpty && key == embeddingKey then .embedding else .object members key) ::
        outer, .value⟩ := by
  refine .cons quote ((leads_keyBytes members key).trans (Moves.leads fun position => ?_))
  change Except.ok (nameMember ⟨container :: outer, _, _⟩ members key) = _
  rw [nameMember]
  rfl

theorem leads_firstName {container : Container} {key : String}
    (unannounced : (key == embeddingKey) = false) :
    Leads embedded (0x22 :: (stringBytes key ++ [0x3A])) ⟨container :: outer, .firstKey⟩
      ⟨.object [] key :: outer, .value⟩ := by
  have named : Leads embedded (0x22 :: (stringBytes key ++ [0x3A]))
      ⟨container :: outer, .firstKey⟩ _ := leads_name moves_first_quote
  rw [unannounced] at named
  exact named

theorem leads_embeddingKey {container : Container} {key : String}
    (announced : (key == embeddingKey) = true) :
    Leads embedded (0x22 :: (stringBytes key ++ [0x3A])) ⟨container :: outer, .firstKey⟩
      ⟨.embedding :: outer, .value⟩ := by
  have named : Leads embedded (0x22 :: (stringBytes key ++ [0x3A]))
      ⟨container :: outer, .firstKey⟩ _ := leads_name moves_first_quote
  rw [announced] at named
  exact named

theorem leads_laterName {container : Container} {members : List (String × Value)}
    (others : members ≠ []) (key : String) :
    Leads embedded (0x22 :: (stringBytes key ++ [0x3A]))
      ⟨container :: outer, .laterKey members⟩ ⟨.object members key :: outer, .value⟩ := by
  have named : Leads embedded (0x22 :: (stringBytes key ++ [0x3A]))
      ⟨container :: outer, .laterKey members⟩ _ := leads_name (moves_later_quote members)
  cases members with
  | nil => exact absurd rfl others
  | cons member later => exact named

end Containers

theorem leads_literal {containers : List Container} {expectation : Expectation}
    (unembedded : Unembedded containers) (ready : Ready expectation) {first second : UInt8}
    {rest : Bytes} {value : Value}
    (begins : ∀ reading, beginValue reading first =
      .ok { reading with expectation := .word ⟨second :: rest, value⟩ })
    (solid : isBlank first = false) (notEnd : first ≠ 0x5D) :
    Leads embedded (first :: second :: rest) ⟨containers, expectation⟩
      ⟨containers, .delimiter value⟩ := by
  refine .cons (fun position => ?_) (leads_word unembedded)
  rw [Content.placed, step_ready unembedded ready solid notEnd, begins]
  rfl

theorem leads_stringText {containers : List Container} {expectation : Expectation}
    (unembedded : Unembedded containers) (ready : Ready expectation) (text : String) :
    Leads embedded ((stringText text).flatMap String.utf8EncodeChar) ⟨containers, expectation⟩
      ⟨containers, .delimiter (.string text)⟩ := by
  rw [flatMap_stringText]
  refine .cons (fun position => ?_) (leads_stringBytes unembedded text)
  rw [Content.placed, step_ready unembedded ready (by decide) (by decide)]
  rfl

theorem flatMap_member (key : String) (rest : List Char) :
    (stringText key ++ ':' :: rest).flatMap String.utf8EncodeChar =
      (0x22 :: (stringBytes key ++ [0x3A])) ++ rest.flatMap String.utf8EncodeChar := by
  rw [List.flatMap_append, flatMap_stringText, List.flatMap_cons, List.cons_append,
    List.cons_append, List.append_assoc]
  rfl

section Embedded

variable {outer : List Container}

/-- After the text of an embedded document nothing but a brace is accepted. -/
theorem yields_afterEmbedded (value : Value) (later : List (String × Value)) :
    Yields embedded ((Value.laterMembers later).flatMap String.utf8EncodeChar)
      ⟨.embedding :: outer, .delimiter value⟩ outer
      (if later.isEmpty then some value else none) := by
  cases later with
  | nil =>
      have moves : Moves embedded 0x7D ⟨.embedding :: outer, .delimiter value⟩
          ⟨outer, .delimiter value⟩ := fun _ => rfl
      exact (Held.delimiter value).yields moves.leads
  | cons member later =>
      exact stalls_of_refused (fun position => ⟨⟨.trailingComma, position.after 0x2C⟩, rfl⟩) _

/-- A number under the embedding key is refused at the byte after it. -/
theorem stalls_embeddedInteger (number : Integer) (later : List (String × Value)) :
    Stalls embedded ((integerText number).flatMap String.utf8EncodeChar ++
      (Value.laterMembers later).flatMap String.utf8EncodeChar)
      ⟨.embedding :: outer, .value⟩ := by
  refine (leads_integer (begins_embedding outer) number).stalls ?_
  have refused : ∀ {byte : UInt8}, PartialNumber.IsSeparator byte → ∀ position, ∃ fault,
      step embedded
        ((Content.mk (.embedding :: outer) (.number (readInteger number))).placed position) byte =
          .error fault := by
    intro byte separator position
    refine ⟨⟨.notEmbedded (Value.integer number).description, position⟩, ?_⟩
    rw [Content.placed, step]
    dsimp only
    rw [readInteger, PartialNumber.step_separator separator]
    dsimp only
    rw [PartialNumber.finish_whole]
    rfl
  cases later with
  | nil => exact stalls_of_refused (refused (.inr (.inr rfl))) []
  | cons member later => exact stalls_of_refused (refused (.inl rfl)) _

theorem complete_embedding (text : String) (expectation : Expectation) (position : Position) :
    complete embedded ⟨.embedding :: outer, expectation, position⟩ (.string text) =
      (embedded text).map fun value => ⟨.embedding :: outer, .delimiter value, position⟩ := by
  unfold complete
  dsimp only
  cases embedded text with
  | error fault => rfl
  | ok value => rfl

/-- A string under the embedding key is read as a document. -/
theorem yields_embeddedText (text : String) (later : List (String × Value)) :
    Yields embedded ((stringText text).flatMap String.utf8EncodeChar ++
        (Value.laterMembers later).flatMap String.utf8EncodeChar)
      ⟨.embedding :: outer, .value⟩ outer
      (if later.isEmpty then (embedded text).toOption else none) := by
  have quote : Moves embedded 0x22 ⟨.embedding :: outer, .value⟩
      ⟨.embedding :: outer, .string .empty⟩ := fun _ => rfl
  have closing : ∀ position,
      step embedded ((Content.mk (.embedding :: outer)
          (.string ⟨(Text.encodeUtf8 text).reverse, .none⟩)).placed position) 0x22 =
        (embedded text).map fun value =>
          (Content.mk (.embedding :: outer) (.delimiter value)).placed (position.after 0x22) := by
    intro position
    rw [Content.placed, step]
    dsimp only
    rw [PartialString.step_closing_quote]
    exact complete_embedding text _ _
  rw [flatMap_stringText, stringBytes, List.cons_append, List.append_assoc]
  refine quote.leads.yields ((leads_string (extends_text text)).yields ?_)
  cases document : embedded text with
  | error fault =>
      rw [Except.toOption, ite_self]
      rw [document] at closing
      exact stalls_of_refused (fun position => ⟨fault, closing position⟩) _
  | ok value =>
      rw [document] at closing
      exact (Moves.leads closing).yields (yields_afterEmbedded value later)

/-- Under the embedding key only the text of a document is accepted, and nothing after it. -/
theorem yields_embedded (key : String) (value : Value) (floatFree : value.FloatFree)
    (later : List (String × Value)) :
    Yields embedded ((value.characters ++ Value.laterMembers later).flatMap String.utf8EncodeChar)
      ⟨.embedding :: outer, .value⟩ outer
      (Value.rereadEmbedded embedded ((key, value) :: later)) := by
  rw [List.flatMap_append, Value.rereadEmbedded_cons]
  cases value with
  | null =>
      refine Stalls.append (fun position => ?_) _
      exact ⟨⟨.notEmbedded Value.null.description, _⟩, rfl⟩
  | bool truth =>
      refine Stalls.append (fun position => ?_) _
      cases truth with
      | false => exact ⟨⟨.notEmbedded (Value.bool false).description, _⟩, rfl⟩
      | true => exact ⟨⟨.notEmbedded (Value.bool true).description, _⟩, rfl⟩
  | integer number => exact stalls_embeddedInteger number later
  | float number => exact floatFree.elim
  | string text => exact yields_embeddedText text later
  | array items =>
      have refused : ∀ rest, Stalls embedded (0x5B :: rest) ⟨.embedding :: outer, .value⟩ :=
        stalls_of_refused fun position => ⟨⟨.notEmbedded (Value.array []).description, _⟩, rfl⟩
      cases items with
      | nil => exact (refused [0x5D]).append _
      | cons item items => exact (refused _).append _
  | object members =>
      have refused : ∀ rest, Stalls embedded (0x7B :: rest) ⟨.embedding :: outer, .value⟩ :=
        stalls_of_refused fun position => ⟨⟨.notEmbedded (Value.object []).description, _⟩, rfl⟩
      cases members with
      | nil => exact (refused [0x7D]).append _
      | cons member members => exact (refused _).append _

end Embedded

mutual

/-- The written form of a value leads to where what is read in its place has been read. -/
theorem yields_value : (value : Value) → value.Exact → (containers : List Container) →
    (expectation : Expectation) → Unembedded containers → Ready expectation →
      Yields embedded (value.characters.flatMap String.utf8EncodeChar)
        ⟨containers, expectation⟩ containers (value.reread embedded containers.length)
  | .null, _, _, _, unembedded, ready =>
      (Held.delimiter .null).yields
        (leads_literal unembedded ready (fun _ => rfl) (by decide) (by decide))
  | .bool true, _, _, _, unembedded, ready =>
      (Held.delimiter (.bool true)).yields
        (leads_literal unembedded ready (fun _ => rfl) (by decide) (by decide))
  | .bool false, _, _, _, unembedded, ready =>
      (Held.delimiter (.bool false)).yields
        (leads_literal unembedded ready (fun _ => rfl) (by decide) (by decide))
  | .integer number, _, _, _, unembedded, ready =>
      (Held.integer number).yields (leads_integer (begins_ready unembedded ready) number)
  -- Doubles are written in their shortest form, about which nothing is known here.
  | .float number, exact, _, _, _, _ => exact.floatFree.elim
  | .string text, _, _, _, unembedded, ready =>
      (Held.delimiter (.string text)).yields (leads_stringText unembedded ready text)
  | .array [], _, _, _, unembedded, ready =>
      yields_enter (step_bracket unembedded ready)
        ((Held.delimiter (.array [])).yields moves_close_array.leads)
  | .array (item :: later), exact, containers, expectation, unembedded, ready => by
      -- The items after the first one are read whatever is read in place of the first.
      have first := yields_value item exact.items.head (.array [] :: containers) .firstItem
        trivial trivial
      have inside := first.bind fun read next held =>
        yields_laterItems later exact.items.tail containers [] held
      rw [Value.characters, List.flatMap_cons, List.flatMap_append, Value.reread,
        Value.rereadItems, Option.map_bind]
      simp only [Function.comp_def, Option.map_map]
      exact yields_enter (step_bracket unembedded ready) inside
  | .object [], _, _, _, unembedded, ready =>
      yields_enter (step_brace unembedded ready)
        ((Held.delimiter (.object [])).yields moves_close_object.leads)
  | .object ((key, value) :: later), exact, containers, expectation, unembedded, ready => by
      rw [Value.characters, List.flatMap_cons, flatMap_member, Value.reread]
      refine yields_enter (step_brace unembedded ready) ?_
      -- Only the first name can announce an embedded document.
      cases announced : key == embeddingKey with
      | true =>
          have announces : announcesEmbedding ((key, value) :: later) = true := announced
          rw [if_pos announces]
          exact (leads_embeddingKey announced).yields
            (yields_embedded key value exact.members.head.floatFree later)
      | false =>
          have first := yields_value value exact.members.head (.object [] key :: containers)
            .value trivial trivial
          have inside := first.bind fun read next held =>
            yields_laterMembers later exact.members.tail containers [] key exact.ordered.1 held
          have plain : ¬announcesEmbedding ((key, value) :: later) = true := by
            simp [announcesEmbedding, announced]
          rw [if_neg plain, List.flatMap_append, Value.rereadMembers, Option.map_bind]
          simp only [Function.comp_def, Option.map_map]
          exact (leads_firstName announced).yields inside

/-- The items after the first one lead to where the whole array has been read. -/
theorem yields_laterItems {value : Value} {expectation : Expectation} :
    (later : List Value) → Value.ExactItems later → (outer : List Container) →
      (items : List Value) → Held value expectation →
        Yields embedded ((Value.laterItems later).flatMap String.utf8EncodeChar)
          ⟨.array items :: outer, expectation⟩ outer
          ((Value.rereadItems embedded later (outer.length + 1)).map fun rest =>
            .array ((value :: items).reverse ++ rest))
  | [], _, outer, items, held => by
      rw [Value.rereadItems, Option.map_some, List.append_nil]
      exact (Held.delimiter _).yields (moves_bracket held items).leads
  | item :: later, exact, outer, items, held => by
      have next := yields_value item exact.head (.array (value :: items) :: outer) .laterItem
        trivial trivial
      have rest := next.bind fun read following reads =>
        yields_laterItems later exact.tail outer (value :: items) reads
      rw [Value.laterItems, List.flatMap_cons, List.flatMap_append, Value.rereadItems,
        Option.map_bind]
      simp only [List.reverse_cons, List.append_assoc, List.singleton_append] at rest
      simp only [Function.comp_def, Option.map_map, List.reverse_cons, List.append_assoc,
        List.singleton_append]
      exact (moves_item_comma held items).leads.yields rest

/-- The members after the first one lead to where the whole object has been read. -/
theorem yields_laterMembers {value : Value} {expectation : Expectation} :
    (later : List (String × Value)) → Value.ExactMembers later → (outer : List Container) →
      (members : List (String × Value)) → (key : String) →
        (members.map Prod.fst ++ key :: later.map Prod.fst).Pairwise (· < ·) →
          Held value expectation →
            Yields embedded ((Value.laterMembers later).flatMap String.utf8EncodeChar)
              ⟨.object members key :: outer, expectation⟩ outer
              ((Value.rereadMembers embedded later (outer.length + 1)).map fun rest =>
                .object (members ++ (key, value) :: rest))
  | [], _, outer, members, key, sorted, held => by
      rw [Value.rereadMembers, Option.map_some, ← putMember_last (last_of_pairwise sorted)]
      exact (Held.delimiter _).yields (moves_brace held members key).leads
  | (laterKey, laterValue) :: later, exact, outer, members, key, sorted, held => by
      have put : putMember key value members = members ++ [(key, value)] :=
        putMember_last (last_of_pairwise sorted)
      have comma : Moves embedded 0x2C ⟨.object members key :: outer, expectation⟩
          ⟨.object members key :: outer, .laterKey (members ++ [(key, value)])⟩ := by
        rw [← put]
        exact moves_member_comma held members key
      have next := yields_value laterValue exact.head
        (.object (members ++ [(key, value)]) laterKey :: outer) .value trivial trivial
      have keys : ((members ++ [(key, value)]).map Prod.fst ++
          laterKey :: later.map Prod.fst).Pairwise (· < ·) := by
        rw [List.map_append, List.append_assoc]
        exact sorted
      have rest := next.bind fun read following reads =>
        yields_laterMembers later exact.tail outer (members ++ [(key, value)]) laterKey keys reads
      rw [Value.laterMembers, List.flatMap_cons, flatMap_member, List.flatMap_append,
        Value.rereadMembers, Option.map_bind]
      simp only [List.append_assoc, List.singleton_append] at rest
      simp only [Function.comp_def, Option.map_map]
      exact comma.leads.yields ((leads_laterName (by simp) laterKey).yields rest)

end

/-- A document that can be come through is read as the value that has been read then. -/
theorem Yields.readWithin_eq_ok_iff {levels : Nat} {document : Bytes} {read : Option Value}
    (yields : Yields (fun text => readWithin levels (Text.encodeUtf8 text)) document
      ⟨[], .value⟩ [] read) (value : Value) :
    readWithin (levels + 1) document = .ok value ↔ read = some value := by
  rw [readWithin]
  cases read with
  | none =>
      obtain ⟨fault, refused⟩ := yields .start
      change List.foldlM _ Reading.start document = _ at refused
      rw [refused]
      simp
  | some inner =>
      obtain ⟨expectation, held, leads⟩ := yields
      obtain ⟨last, folded⟩ := leads.foldlM .start
      change List.foldlM _ Reading.start document =
        Except.ok (Reading.mk [] expectation last) at folded
      rw [folded]
      dsimp only
      rw [finish_held held last]
      simp

end Reading

/-- What is written is not empty, since the reader expects a value. -/
theorem bytes_ne_nil {value : Value} (exact : value.Exact) : value.bytes ≠ [] := by
  intro empty
  have yields : Reading.Yields (fun _ => .ok .null) value.bytes ⟨[], .value⟩ [] _ :=
    Reading.yields_value value exact [] .value trivial trivial
  rw [empty] at yields
  generalize value.reread _ _ = read at yields
  cases read with
  | none =>
      obtain ⟨fault, refused⟩ := yields .start
      cases refused
  | some inner =>
      obtain ⟨expectation, held, stays⟩ := yields
      cases stays
      cases held

/-- What is read from the written form of a value, if it is accepted, is read in place of the
value. -/
theorem read_written_eq_ok_iff {value : Value} (exact : value.Exact) (inner : Value) :
    read value.bytes = .ok inner ↔
      value.reread (fun text => readWithin (value.bytes.length - 1) (Text.encodeUtf8 text)) 0 =
        some inner := by
  have levels : value.bytes.length = value.bytes.length - 1 + 1 :=
    (Nat.sub_add_cancel (List.length_pos_iff.mpr (bytes_ne_nil exact))).symm
  rw [read, levels, Nat.add_sub_cancel]
  exact Reading.Yields.readWithin_eq_ok_iff
    (Reading.yields_value value exact [] .value trivial trivial) inner

theorem decode_json_eq_ok_iff {document : Bytes} {value : Value} :
    Codec.json.decode document = .ok value ↔ read document = .ok value := by
  rw [Codec.json]
  dsimp only
  cases read document with
  | error fault => simp
  | ok inner => simp

/-- The usual codec decodes what it has encoded. -/
theorem decode_json {value : Value} (readable : value.Readable)
    (depth : value.depth ≤ depthLimit) : Codec.json.decode value.bytes = .ok value :=
  decode_json_eq_ok_iff.mpr ((read_written_eq_ok_iff readable.exact value).mpr
    (Value.reread_of_unannounced value readable.unannounced 0 (by omega)))

end Json
end RemoteCall
