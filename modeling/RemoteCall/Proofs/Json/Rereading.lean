import RemoteCall.Json.Reader

/-!
# What a written value reads as

A value need not be read as what it was when it was written.  It is refused where arrays and objects
lie too deep inside each other, and an object whose first key is the embedding key is taken for the
document in its text.  `Value.reread` says what is read in place of a value without referring to
bytes.  It is the value itself exactly if the value does not nest too deep and no object in it
announces an embedded document.
-/

namespace RemoteCall
namespace Json
namespace Value

mutual

/-- No object in the value announces an embedded document. -/
def Unannounced : Value → Prop
  | .array items => UnannouncedItems items
  | .object members => announcesEmbedding members = false ∧ UnannouncedMembers members
  | _ => True

def UnannouncedItems : List Value → Prop
  | [] => True
  | item :: later => item.Unannounced ∧ UnannouncedItems later

def UnannouncedMembers : List (String × Value) → Prop
  | [] => True
  | (_, value) :: later => value.Unannounced ∧ UnannouncedMembers later

end

/-- What is read in place of an object that announces an embedded document: the value of the
document, if its text is all that stands in the object. -/
def rereadEmbedded (embedded : EmbeddedReader) : List (String × Value) → Option Value
  | [(_, .string text)] => (embedded text).toOption
  | _ => none

mutual

/-- What is read in place of a value that is written inside of so many arrays and objects, if it is
accepted. -/
def reread (embedded : EmbeddedReader) : Value → Nat → Option Value
  | .array items, opened =>
      if opened < depthLimit then (rereadItems embedded items (opened + 1)).map .array else none
  | .object members, opened =>
      if opened < depthLimit then
        if announcesEmbedding members then rereadEmbedded embedded members
        else (rereadMembers embedded members (opened + 1)).map .object
      else none
  | value, _ => some value

def rereadItems (embedded : EmbeddedReader) : List Value → Nat → Option (List Value)
  | [], _ => some []
  | item :: later, opened =>
      (item.reread embedded opened).bind fun read =>
        (rereadItems embedded later opened).map (read :: ·)

def rereadMembers (embedded : EmbeddedReader) :
    List (String × Value) → Nat → Option (List (String × Value))
  | [], _ => some []
  | (key, value) :: later, opened =>
      (value.reread embedded opened).bind fun read =>
        (rereadMembers embedded later opened).map ((key, read) :: ·)

end

section Accepted

variable {embedded : EmbeddedReader} {opened : Nat} {value read : Value}

theorem rereadEmbedded_cons (key : String) (later : List (String × Value)) :
    rereadEmbedded embedded ((key, value) :: later) =
      match value with
      | .string text => if later.isEmpty then (embedded text).toOption else none
      | _ => none := by
  cases value with
  | string text =>
      cases later with
      | nil => rfl
      | cons member later => rfl
  | _ => rfl

theorem rereadEmbedded_eq_some {members : List (String × Value)}
    (accepted : rereadEmbedded embedded members = some read) :
    ∃ key text, members = [(key, .string text)] ∧ embedded text = .ok read := by
  unfold rereadEmbedded at accepted
  split at accepted
  case h_1 key text =>
    refine ⟨key, text, rfl, ?_⟩
    cases inner : embedded text with
    | error fault =>
        rw [inner] at accepted
        cases accepted
    | ok document =>
        rw [inner] at accepted
        cases accepted
        rfl
  case h_2 => cases accepted

theorem reread_array_eq_some {items : List Value}
    (accepted : (array items).reread embedded opened = some read) :
    opened < depthLimit ∧
      ∃ inside, rereadItems embedded items (opened + 1) = some inside ∧ array inside = read := by
  rw [reread] at accepted
  split at accepted
  case isTrue room => exact ⟨room, Option.map_eq_some_iff.mp accepted⟩
  case isFalse => cases accepted

theorem reread_object_eq_some {members : List (String × Value)}
    (accepted : (object members).reread embedded opened = some read) :
    opened < depthLimit ∧
      (announcesEmbedding members = true ∧ rereadEmbedded embedded members = some read ∨
        announcesEmbedding members = false ∧
          ∃ inside, rereadMembers embedded members (opened + 1) = some inside ∧
            object inside = read) := by
  rw [reread] at accepted
  split at accepted
  case isTrue room =>
    split at accepted
    case isTrue announced => exact ⟨room, .inl ⟨announced, accepted⟩⟩
    case isFalse plain =>
      exact ⟨room, .inr ⟨Bool.eq_false_iff.mpr plain, Option.map_eq_some_iff.mp accepted⟩⟩
  case isFalse => cases accepted

theorem rereadItems_cons_eq_some {later inside : List Value}
    (accepted : rereadItems embedded (value :: later) opened = some inside) :
    ∃ first rest, value.reread embedded opened = some first ∧
      rereadItems embedded later opened = some rest ∧ first :: rest = inside := by
  rw [rereadItems] at accepted
  obtain ⟨first, firstRead, accepted⟩ := Option.bind_eq_some_iff.mp accepted
  obtain ⟨rest, restRead, same⟩ := Option.map_eq_some_iff.mp accepted
  exact ⟨first, rest, firstRead, restRead, same⟩

theorem rereadMembers_cons_eq_some {key : String} {later inside : List (String × Value)}
    (accepted : rereadMembers embedded ((key, value) :: later) opened = some inside) :
    ∃ first rest, value.reread embedded opened = some first ∧
      rereadMembers embedded later opened = some rest ∧ (key, first) :: rest = inside := by
  rw [rereadMembers] at accepted
  obtain ⟨first, firstRead, accepted⟩ := Option.bind_eq_some_iff.mp accepted
  obtain ⟨rest, restRead, same⟩ := Option.map_eq_some_iff.mp accepted
  exact ⟨first, rest, firstRead, restRead, same⟩

end Accepted

variable {embedded : EmbeddedReader}

mutual

/-- Nothing is read in place of a value that nests too deep. -/
theorem depth_of_reread : (value : Value) → (opened : Nat) → {read : Value} →
    value.reread embedded opened = some read → value.depth ≤ depthLimit - opened
  | .null, opened, _, _ | .bool _, opened, _, _ | .integer _, opened, _, _
  | .float _, opened, _, _ | .string _, opened, _, _ => Nat.zero_le (depthLimit - opened)
  | .array items, opened, _, accepted => by
      obtain ⟨room, inside, rereadInside, _⟩ := reread_array_eq_some accepted
      have bound := depthOfItems_of_reread items (opened + 1) rereadInside
      rw [depth]
      omega
  | .object members, opened, _, accepted => by
      obtain ⟨room, ⟨_, alone⟩ | ⟨_, inside, rereadInside, _⟩⟩ := reread_object_eq_some accepted
      · -- The text of an embedded document has no parts.
        obtain ⟨key, text, rfl, _⟩ := rereadEmbedded_eq_some alone
        simp only [depth, depthOfMembers]
        omega
      · have bound := depthOfMembers_of_reread members (opened + 1) rereadInside
        rw [depth]
        omega

theorem depthOfItems_of_reread : (items : List Value) → (opened : Nat) → {read : List Value} →
    rereadItems embedded items opened = some read → depthOfItems items ≤ depthLimit - opened
  | [], opened, _, _ => Nat.zero_le (depthLimit - opened)
  | item :: later, opened, _, accepted => by
      obtain ⟨first, rest, firstRead, restRead, _⟩ := rereadItems_cons_eq_some accepted
      rw [depthOfItems]
      exact Nat.max_le.mpr
        ⟨depth_of_reread item opened firstRead, depthOfItems_of_reread later opened restRead⟩

theorem depthOfMembers_of_reread : (members : List (String × Value)) → (opened : Nat) →
    {read : List (String × Value)} → rereadMembers embedded members opened = some read →
      depthOfMembers members ≤ depthLimit - opened
  | [], opened, _, _ => Nat.zero_le (depthLimit - opened)
  | (_, value) :: later, opened, _, accepted => by
      obtain ⟨first, rest, firstRead, restRead, _⟩ := rereadMembers_cons_eq_some accepted
      rw [depthOfMembers]
      exact Nat.max_le.mpr
        ⟨depth_of_reread value opened firstRead, depthOfMembers_of_reread later opened restRead⟩

end

mutual

theorem reread_of_unannounced : (value : Value) → value.Unannounced → (opened : Nat) →
    opened + value.depth ≤ depthLimit → value.reread embedded opened = some value
  | .null, _, _, _ | .bool _, _, _, _ | .integer _, _, _, _ | .float _, _, _, _
  | .string _, _, _, _ => rfl
  | .array items, unannounced, opened, fits => by
      rw [depth] at fits
      rw [reread, if_pos (by omega),
        rereadItems_of_unannounced items unannounced (opened + 1) (by omega), Option.map_some]
  | .object members, unannounced, opened, fits => by
      rw [depth] at fits
      have plain : ¬announcesEmbedding members = true := by simp [unannounced.1]
      rw [reread, if_pos (by omega), if_neg plain,
        rereadMembers_of_unannounced members unannounced.2 (opened + 1) (by omega),
        Option.map_some]

theorem rereadItems_of_unannounced : (items : List Value) → UnannouncedItems items →
    (opened : Nat) → opened + depthOfItems items ≤ depthLimit →
      rereadItems embedded items opened = some items
  | [], _, _, _ => rfl
  | item :: later, unannounced, opened, fits => by
      rw [depthOfItems] at fits
      rw [rereadItems, reread_of_unannounced item unannounced.1 opened (by omega),
        rereadItems_of_unannounced later unannounced.2 opened (by omega)]
      rfl

theorem rereadMembers_of_unannounced : (members : List (String × Value)) →
    UnannouncedMembers members → (opened : Nat) →
      opened + depthOfMembers members ≤ depthLimit →
        rereadMembers embedded members opened = some members
  | [], _, _, _ => rfl
  | (_, value) :: later, unannounced, opened, fits => by
      rw [depthOfMembers] at fits
      rw [rereadMembers, reread_of_unannounced value unannounced.1 opened (by omega),
        rereadMembers_of_unannounced later unannounced.2 opened (by omega)]
      rfl

end

/-- The value is an object with no key but the embedding key, which no document reads as. -/
def Bare : Value → Prop
  | .object [(key, _)] => key = embeddingKey
  | _ => False

def NeverBare (embedded : EmbeddedReader) : Prop :=
  ∀ text inner, embedded text = .ok inner → ¬inner.Bare

mutual

/-- An object that announces an embedded document is not what is read in its place. -/
theorem unannounced_of_reread (never : NeverBare embedded) : (value : Value) →
    (opened : Nat) → value.reread embedded opened = some value → value.Unannounced
  | .null, _, _ | .bool _, _, _ | .integer _, _, _ | .float _, _, _ | .string _, _, _ => trivial
  | .array items, opened, kept => by
      obtain ⟨_, inside, rereadInside, same⟩ := reread_array_eq_some kept
      cases same
      exact unannouncedItems_of_reread never items (opened + 1) rereadInside
  | .object members, opened, kept => by
      obtain ⟨_, ⟨announced, alone⟩ | ⟨plain, inside, rereadInside, same⟩⟩ :=
        reread_object_eq_some kept
      · obtain ⟨key, text, rfl, read⟩ := rereadEmbedded_eq_some alone
        exact absurd (beq_iff_eq.mp announced) (never text _ read)
      · cases same
        exact ⟨plain, unannouncedMembers_of_reread never members (opened + 1) rereadInside⟩

theorem unannouncedItems_of_reread (never : NeverBare embedded) : (items : List Value) →
    (opened : Nat) → rereadItems embedded items opened = some items → UnannouncedItems items
  | [], _, _ => trivial
  | item :: later, opened, kept => by
      obtain ⟨first, rest, firstRead, restRead, same⟩ := rereadItems_cons_eq_some kept
      cases same
      exact ⟨unannounced_of_reread never item opened firstRead,
        unannouncedItems_of_reread never later opened restRead⟩

theorem unannouncedMembers_of_reread (never : NeverBare embedded) :
    (members : List (String × Value)) → (opened : Nat) →
      rereadMembers embedded members opened = some members → UnannouncedMembers members
  | [], _, _ => trivial
  | (_, value) :: later, opened, kept => by
      obtain ⟨first, rest, firstRead, restRead, same⟩ := rereadMembers_cons_eq_some kept
      cases same
      exact ⟨unannounced_of_reread never value opened firstRead,
        unannouncedMembers_of_reread never later opened restRead⟩

end

/-- A value is read as itself exactly if it does not nest too deep and announces nothing. -/
theorem reread_eq_self_iff (never : NeverBare embedded) (value : Value) :
    value.reread embedded 0 = some value ↔ value.depth ≤ depthLimit ∧ value.Unannounced :=
  ⟨fun kept => ⟨depth_of_reread value 0 kept, unannounced_of_reread never value 0 kept⟩,
    fun ⟨fits, unannounced⟩ => reread_of_unannounced value unannounced 0 (by omega)⟩

end Value
end Json
end RemoteCall
