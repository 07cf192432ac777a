import RemoteCall.Proofs.Route.Frame
import Mathlib.Data.Finset.Card
import Mathlib.Data.List.Nodup

/-!
# What a cache remembers after any operations

The order of the entries of a cache is the order in which their keys were last used: one key comes
before another one exactly if fewer uses lie behind its last use.  This is kept by every operation,
and everything else follows from it.  The entry that makes room is the one whose last use lies
furthest back; and a key that has made room has seen as many other keys used since its own last use
as the cache can hold, so that a key with fewer of them is still there.
-/

namespace RemoteCall
namespace Route

/-- What can be asked of a cache (the methods of `RequestToUriCache`). -/
inductive Operation where
  | get (key : String)
  | put (key target : String)
  | remove (key : String)
  | contains (key : String)
  | clear
  deriving DecidableEq, Repr

/-- What a cache answers. -/
inductive Answer where
  | target (found : Option String)
  | presence (known : Bool)
  | done
  deriving DecidableEq, Repr

namespace Cache

/-- What an operation answers, and the cache after it. -/
def perform (cache : Cache) : Operation → Answer × Cache
  | .get key => (.target (cache.get key).1, (cache.get key).2)
  | .put key target => (.done, cache.put key target)
  | .remove key => (.target (cache.find? key), cache.remove key)
  | .contains key => (.presence (cache.contains key), cache)
  | .clear => (.done, cache.clear)

/-- A cache after some operations on it, of which the latest one comes first. -/
def after (capacity : Nat) : List Operation → Cache
  | [] => withCapacity capacity
  | operation :: earlier => ((after capacity earlier).perform operation).2

end Cache

namespace Operation

/-- The key that an operation uses: one that is written, or that is looked up and found. -/
def used? (cache : Cache) : Operation → Option String
  | put key _ => some key
  | get key => if cache.contains key then some key else none
  | remove _ | contains _ | clear => none

/-- Whether an operation decides by itself what is remembered of a key from now on. -/
def settles (key : String) : Operation → Bool
  | put name _ | remove name => name == key
  | clear => true
  | get _ | contains _ => false

end Operation

/-- The keys that some operations have used, the latest use first. -/
def uses (capacity : Nat) : List Operation → List String
  | [] => []
  | operation :: earlier =>
      (operation.used? (Cache.after capacity earlier)).toList ++ uses capacity earlier

/-- The target with which a key was put last, unless it was removed or everything was cleared since
then. -/
def stated (key : String) : List Operation → Option String
  | [] => none
  | .put name target :: earlier => if name = key then some target else stated key earlier
  | .remove name :: earlier => if name = key then none else stated key earlier
  | .clear :: _ => none
  | .get _ :: earlier | .contains _ :: earlier => stated key earlier

/-- A key is remembered no longer after an operation that is not about it. -/
def Displaces (cache : Cache) (operation : Operation) (key : String) : Prop :=
  cache.contains key = true ∧ operation.settles key = false ∧
    (cache.perform operation).2.contains key = false

instance (cache : Cache) (operation : Operation) (key : String) :
    Decidable (Displaces cache operation key) :=
  inferInstanceAs (Decidable (_ ∧ _))

/-- A key has been displaced since it was put, removed or cleared last. -/
def Displaced (capacity : Nat) (key : String) : List Operation → Prop
  | [] => False
  | operation :: earlier =>
      operation.settles key = false ∧
        (Displaced capacity key earlier ∨ Displaces (Cache.after capacity earlier) operation key)

/-- The other keys that have been used since the last use of a key. -/
def usedSince (used : List String) (key : String) : Finset String :=
  (used.take (used.idxOf key)).toFinset

/-- Of the keys that a cache remembers, this is the one whose last use lies furthest back. -/
structure FurthestBack (cache : Cache) (used : List String) (key : String) : Prop where
  known : cache.contains key = true
  furthest : ∀ other, cache.contains other = true → other ≠ key →
    used.idxOf other < used.idxOf key

section Uses

variable {used : List String} {key other : String}

theorem idxOf_cons_of_ne (differs : other ≠ key) :
    (key :: used).idxOf other = used.idxOf other + 1 :=
  List.idxOf_cons_ne used differs.symm

theorem usedSince_cons_of_ne (differs : other ≠ key) :
    usedSince (key :: used) other = insert key (usedSince used other) := by
  rw [usedSince, idxOf_cons_of_ne differs, List.take_succ_cons, List.toFinset_cons, usedSince]

/-- A key that was used later than another one has been used since the last use of the other. -/
theorem mem_usedSince (member : other ∈ used) (later : used.idxOf other < used.idxOf key) :
    other ∈ usedSince used key := by
  rw [usedSince, List.mem_toFinset, List.mem_take_iff_getElem]
  have within : used.idxOf other < used.length := List.idxOf_lt_length_of_mem member
  exact ⟨used.idxOf other, by omega, List.getElem_idxOf within⟩

end Uses

namespace Cache

variable {cache : Cache} {used : List String} {key other target : String} {operation : Operation}

theorem contains_iff_mem :
    cache.contains key = true ↔ ∃ target, (key, target) ∈ cache.entries := by
  rw [contains, Option.isSome_iff_exists]
  constructor
  · rintro ⟨target, found⟩
    exact ⟨target, mem_of_find? found⟩
  · rintro ⟨target, member⟩
    cases found : cache.find? key with
    | some other => exact ⟨other, rfl⟩
    | none =>
        have unequal := List.lookup_eq_none_iff.mp found (key, target) member
        simp at unequal

theorem contains_of_mem {entry : String × String} (member : entry ∈ cache.entries) :
    cache.contains entry.1 = true :=
  contains_iff_mem.mpr ⟨entry.2, member⟩

theorem fst_ne_of_mem_others {entry : String × String} (member : entry ∈ cache.others key) :
    entry.1 ≠ key := by
  simpa using (List.mem_filter.mp member).2

theorem others_of_not_contains (unknown : cache.contains key = false) :
    cache.others key = cache.entries := by
  rw [contains, Option.isSome_eq_false_iff, Option.isNone_iff_eq_none] at unknown
  exact others_of_find? unknown

theorem length_others_lt (known : cache.contains key = true) :
    (cache.others key).length < cache.entries.length := by
  obtain ⟨target, member⟩ := contains_iff_mem.mp known
  exact List.length_filter_lt_length_iff_exists.mpr ⟨(key, target), member, by simp⟩

/-- A key that is written changes what another key says at most by making it unknown. -/
theorem find?_put_cases (cache : Cache) (target : String) (differs : other ≠ key) :
    (cache.put key target).find? other = cache.find? other ∨
      (cache.put key target).find? other = none := by
  have whole := lookup_fronted cache target differs
  rw [← List.take_append_drop cache.capacity ((key, target) :: cache.others key),
    List.lookup_append] at whole
  cases kept : (cache.put key target).find? other with
  | none => exact Or.inr rfl
  | some said =>
      have isKept : (((key, target) :: cache.others key).take cache.capacity).lookup other =
        some said := kept
      rw [isKept, Option.some_or] at whole
      exact Or.inl whole

/-- The entries of a cache are in the order of the last uses of their keys. -/
structure Ordered (cache : Cache) (used : List String) : Prop where
  bounded : cache.entries.length ≤ cache.capacity
  known : ∀ entry ∈ cache.entries, entry.1 ∈ used
  recency : cache.entries.Pairwise fun first second =>
    used.idxOf first.1 < used.idxOf second.1

namespace Ordered

theorem nodup (ordered : Ordered cache used) : (cache.entries.map Prod.fst).Nodup := by
  rw [List.Nodup, List.pairwise_map]
  exact ordered.recency.imp fun earlier same => absurd earlier (by simp [same])

theorem withCapacity (capacity : Nat) : Ordered (withCapacity capacity) [] where
  bounded := Nat.zero_le _
  known := nofun
  recency := .nil

/-- Some of the entries are in the same order. -/
theorem sublist (ordered : Ordered cache used) {fewer : Cache}
    (sublist : fewer.entries.Sublist cache.entries) (capacity : fewer.capacity = cache.capacity) :
    Ordered fewer used where
  bounded := by
    rw [capacity]
    exact Nat.le_trans sublist.length_le ordered.bounded
  known entry member := ordered.known entry (sublist.subset member)
  recency := ordered.recency.sublist sublist

/-- A key that is used comes to the front. -/
theorem fronted (ordered : Ordered cache used) (key target : String) {next : Cache}
    (sublist : next.entries.Sublist ((key, target) :: cache.others key))
    (bounded : next.entries.length ≤ next.capacity) : Ordered next (key :: used) where
  bounded := bounded
  known entry member := by
    rcases List.mem_cons.mp (sublist.subset member) with rfl | stored
    · exact List.mem_cons_self
    · exact List.mem_cons_of_mem key (ordered.known entry (mem_of_mem_others stored))
  recency := by
    refine List.Pairwise.sublist sublist (List.pairwise_cons.mpr ⟨?_, ?_⟩)
    · intro entry stored
      rw [List.idxOf_cons_self, idxOf_cons_of_ne (fst_ne_of_mem_others stored)]
      exact Nat.succ_pos _
    · have kept : (cache.others key).Pairwise fun first second =>
          used.idxOf first.1 < used.idxOf second.1 := ordered.recency.sublist List.filter_sublist
      refine List.Pairwise.imp_of_mem (fun {first second} one two earlier => ?_) kept
      rw [idxOf_cons_of_ne (fst_ne_of_mem_others one), idxOf_cons_of_ne (fst_ne_of_mem_others two)]
      exact Nat.succ_lt_succ earlier

theorem touch (ordered : Ordered cache used) (known : cache.contains key = true) :
    Ordered (cache.touch key) (key :: used) := by
  have fewer := length_others_lt known
  have bounded := ordered.bounded
  unfold Cache.touch
  split
  · next target found =>
      refine ordered.fronted key target (List.Sublist.refl _) ?_
      change (cache.others key).length + 1 ≤ cache.capacity
      omega
  · next missing =>
      rw [contains, missing] at known
      cases known

theorem perform (ordered : Ordered cache used) (operation : Operation) :
    Ordered (cache.perform operation).2 ((operation.used? cache).toList ++ used) := by
  cases operation with
  | get key =>
      rw [Operation.used?]
      by_cases known : cache.contains key = true
      · rw [if_pos known]
        exact ordered.touch known
      · have missing : cache.find? key = none := by
          simpa [contains] using known
        have same : cache.touch key = cache := by rw [Cache.touch, missing]
        rw [if_neg known, Cache.perform, get, same]
        exact ordered
  | put key target =>
      exact ordered.fronted key target (List.take_sublist _ _) (List.length_take_le _ _)
  | remove key => exact ordered.sublist List.filter_sublist rfl
  | contains key => exact ordered
  | clear => exact ordered.sublist (List.nil_sublist _) rfl

end Ordered

/-- What an operation that is not about a key leaves of it. -/
theorem find?_perform (cache : Cache) (unsettled : operation.settles key = false) :
    (cache.perform operation).2.find? key = cache.find? key ∨
      Displaces cache operation key ∧ (cache.perform operation).2.find? key = none := by
  cases operation with
  | get name => exact Or.inl (find?_touch cache name key)
  | contains name => exact Or.inl rfl
  | clear => cases unsettled
  | remove name =>
      have differs : key ≠ name := (ne_of_beq_false unsettled).symm
      exact Or.inl (find?_remove_of_ne cache differs)
  | put name target =>
      have differs : key ≠ name := (ne_of_beq_false unsettled).symm
      rcases find?_put_cases cache target differs with same | gone
      · exact Or.inl same
      · cases known : cache.find? key with
        | none => exact Or.inl gone
        | some said =>
            refine Or.inr ⟨⟨?_, unsettled, ?_⟩, gone⟩
            · rw [contains, known]
              rfl
            · change (cache.put name target).contains key = false
              rw [contains, gone]
              rfl

/-- An operation that decides about a key leaves what it states. -/
theorem find?_perform_of_settles (settles : operation.settles key = true)
    (earlier : List Operation) :
    (cache.perform operation).2.find? key = stated key (operation :: earlier) := by
  cases operation with
  | get | contains => cases settles
  | clear => rfl
  | put name target =>
      have same : name = key := by simpa [Operation.settles] using settles
      subst same
      rw [stated, if_pos rfl]
      exact find?_put_self cache name target
  | remove name =>
      have same : name = key := by simpa [Operation.settles] using settles
      subst same
      rw [stated, if_pos rfl]
      exact find?_remove_self cache name

section Displacement

/-- Only a new key in a full cache displaces another one. -/
theorem put_of_displaces (ordered : Ordered cache used)
    (displaces : Displaces cache operation key) :
    ∃ new target, operation = .put new target ∧ cache.contains new = false ∧
      cache.size = cache.capacity := by
  obtain ⟨known, unsettled, gone⟩ := displaces
  cases operation with
  | get name =>
      have same : (cache.touch name).contains key = cache.contains key := by
        rw [contains, find?_touch, contains]
      rw [perform, get, same, known] at gone
      cases gone
  | contains name =>
      rw [perform, known] at gone
      cases gone
  | clear => cases unsettled
  | remove name =>
      have differs : key ≠ name := (ne_of_beq_false unsettled).symm
      rw [perform, contains, find?_remove_of_ne cache differs, ← contains, known] at gone
      cases gone
  | put new target =>
      have differs : key ≠ new := (ne_of_beq_false unsettled).symm
      have full : cache.capacity ≤ (cache.others new).length := by
        by_contra room
        rw [perform, contains, find?_put_of_room (Nat.lt_of_not_le room) target differs,
          ← contains, known] at gone
        cases gone
      have bounded := ordered.bounded
      have unknown : cache.contains new = false := by
        rw [← Bool.not_eq_true]
        intro isKnown
        have fewer := length_others_lt isKnown
        omega
      rw [others_of_not_contains unknown] at full
      exact ⟨new, target, rfl, unknown, Nat.le_antisymm bounded full⟩

variable {new : String} (unknown : cache.contains new = false)

include unknown

theorem entries_put_of_unknown (target : String) :
    (cache.put new target).entries =
      (new, target) :: cache.entries.take (cache.capacity - 1) := by
  have positive := cache.capacity_pos
  change ((new, target) :: cache.others new).take cache.capacity = _
  rw [others_of_not_contains unknown, List.take_cons positive]

/-- The keys that a new one displaces are those beyond what the cache holds besides it. -/
theorem displaces_put_iff (target : String) :
    Displaces cache (.put new target) key ↔
      cache.contains key = true ∧
        ∀ said, (key, said) ∉ cache.entries.take (cache.capacity - 1) := by
  have stays : (cache.put new target).contains key = true ↔
      key = new ∨ ∃ said, (key, said) ∈ cache.entries.take (cache.capacity - 1) := by
    rw [contains_iff_mem, entries_put_of_unknown unknown]
    simp [exists_or]
  constructor
  · rintro ⟨known, _, gone⟩
    refine ⟨known, fun said member => ?_⟩
    have kept := stays.mpr (Or.inr ⟨said, member⟩)
    rw [perform, kept] at gone
    cases gone
  · rintro ⟨known, unlisted⟩
    have differs : key ≠ new := by
      rintro rfl
      rw [unknown] at known
      cases known
    refine ⟨known, beq_false_of_ne differs.symm, ?_⟩
    rw [← Bool.not_eq_true, perform, stays]
    rintro (same | ⟨said, member⟩)
    · exact differs same
    · exact unlisted said member

omit unknown

/-- In a full cache the last entry is the one whose last use lies furthest back. -/
theorem furthestBack_iff (ordered : Ordered cache used)
    (full : cache.entries.length = cache.capacity) :
    FurthestBack cache used key ↔
      cache.contains key = true ∧
        ∀ said, (key, said) ∉ cache.entries.take (cache.capacity - 1) := by
  have positive := cache.capacity_pos
  have parts := List.take_append_drop (cache.capacity - 1) cache.entries
  have divided := ordered.recency
  rw [← parts, List.pairwise_append] at divided
  obtain ⟨_, _, later⟩ := divided
  obtain ⟨last, isLast⟩ : ∃ last, cache.entries.drop (cache.capacity - 1) = [last] :=
    List.length_eq_one_iff.mp (by rw [List.length_drop]; omega)
  rw [isLast] at later parts
  constructor
  · rintro ⟨known, furthest⟩
    refine ⟨known, fun said member => ?_⟩
    have before := later _ member last (List.mem_singleton.mpr rfl)
    have stored : last ∈ cache.entries := by
      rw [← parts]
      simp
    have differs : last.1 ≠ key := by
      intro same
      rw [same] at before
      exact Nat.lt_irrefl _ before
    exact absurd (furthest last.1 (contains_of_mem stored) differs) (Nat.lt_asymm before)
  · rintro ⟨known, unlisted⟩
    have either : ∀ entry ∈ cache.entries,
        entry ∈ cache.entries.take (cache.capacity - 1) ∨ entry = last := by
      intro entry member
      rw [← parts] at member
      simpa using member
    obtain ⟨said, member⟩ := contains_iff_mem.mp known
    have own : (key, said) = last := (either _ member).resolve_left (unlisted said)
    refine ⟨known, fun other isKnown differs => ?_⟩
    obtain ⟨otherSaid, stored⟩ := contains_iff_mem.mp isKnown
    rcases either _ stored with listed | isLast
    · have before := later _ listed last (List.mem_singleton.mpr rfl)
      rwa [← own] at before
    · rw [← own] at isLast
      exact absurd (congrArg Prod.fst isLast) differs

/-- A new key that comes into a full cache displaces the key whose last use lies furthest back, and
nothing else is ever displaced. -/
theorem displaces_iff (ordered : Ordered cache used) :
    Displaces cache operation key ↔
      ∃ new target, operation = .put new target ∧ cache.contains new = false ∧
        cache.size = cache.capacity ∧ FurthestBack cache used key := by
  constructor
  · intro displaces
    obtain ⟨new, target, rfl, unknown, full⟩ := put_of_displaces ordered displaces
    have unlisted := (displaces_put_iff unknown target).mp displaces
    exact ⟨new, target, rfl, unknown, full, (furthestBack_iff ordered full).mpr unlisted⟩
  · rintro ⟨new, target, rfl, unknown, full, furthest⟩
    exact (displaces_put_iff unknown target).mpr ((furthestBack_iff ordered full).mp furthest)

end Displacement

end Cache

theorem stated_of_unsettled {operation : Operation} {key : String}
    (unsettled : operation.settles key = false) (earlier : List Operation) :
    stated key (operation :: earlier) = stated key earlier := by
  cases operation with
  | get | contains => rfl
  | clear => cases unsettled
  | put name | remove name =>
      have differs : name ≠ key := by simpa [Operation.settles] using unsettled
      rw [stated, if_neg differs]

section Histories

variable (capacity : Nat) (key : String)

instance decidableDisplaced : (operations : List Operation) →
    Decidable (Displaced capacity key operations)
  | [] => inferInstanceAs (Decidable False)
  | _ :: earlier =>
      have := decidableDisplaced earlier
      inferInstanceAs (Decidable (_ ∧ (_ ∨ _)))

theorem capacity_after (operations : List Operation) :
    (Cache.after capacity operations).capacity = max capacity 1 := by
  induction operations with
  | nil => rfl
  | cons operation earlier ih =>
      rw [← ih]
      cases operation with
      | get name => exact Cache.capacity_touch _ name
      | put | remove | contains | clear => rfl

theorem ordered_after (operations : List Operation) :
    (Cache.after capacity operations).Ordered (uses capacity operations) := by
  induction operations with
  | nil => exact .withCapacity capacity
  | cons operation earlier ih => exact ih.perform operation

/-- What is remembered of a key is what was stated of it last, unless it has been displaced since
then. -/
theorem find?_after (operations : List Operation) :
    (Cache.after capacity operations).find? key =
      if Displaced capacity key operations then none else stated key operations := by
  induction operations with
  | nil => rfl
  | cons operation earlier ih =>
      cases settles : operation.settles key with
      | true =>
          have undisplaced : ¬Displaced capacity key (operation :: earlier) := by
            rintro ⟨unsettled, _⟩
            rw [settles] at unsettled
            cases unsettled
          rw [if_neg undisplaced]
          exact Cache.find?_perform_of_settles settles earlier
      | false =>
          rw [stated_of_unsettled settles]
          change ((Cache.after capacity earlier).perform operation).2.find? key = _
          rcases Cache.find?_perform (Cache.after capacity earlier) settles with
            same | ⟨displaces, gone⟩
          · have stays : ¬Displaces (Cache.after capacity earlier) operation key := by
              rintro ⟨known, _, gone⟩
              rw [Cache.contains, same, ← Cache.contains, known] at gone
              cases gone
            have unchanged : Displaced capacity key (operation :: earlier) ↔
                Displaced capacity key earlier :=
              ⟨fun displaced => displaced.2.resolve_right stays, fun before => ⟨settles, .inl before⟩⟩
            rw [same, ih]
            simp only [unchanged]
          · have displaced : Displaced capacity key (operation :: earlier) :=
              ⟨settles, Or.inr displaces⟩
            rw [gone, if_pos displaced]

/-- A key that is displaced has seen as many other keys used since its own last use as there is
room for. -/
theorem capacity_le_usedSince {cache : Cache} {used : List String} {operation : Operation}
    {key : String} (ordered : cache.Ordered used) (displaces : Displaces cache operation key) :
    cache.capacity ≤ (usedSince ((operation.used? cache).toList ++ used) key).card := by
  obtain ⟨new, target, rfl, unknown, full, known, furthest⟩ :=
    (Cache.displaces_iff ordered).mp displaces
  have differs : key ≠ new := by
    rintro rfl
    rw [unknown] at known
    cases known
  -- The new key takes the place of the displaced one among the keys of a full cache.
  let keys := (cache.entries.map Prod.fst).toFinset
  have known_of_mem {name : String} : name ∈ keys ↔ cache.contains name = true := by
    simp [keys, Cache.contains_iff_mem]
  have counted : (insert new (keys.erase key)).card = cache.capacity := by
    have foreign : new ∉ keys.erase key := by
      intro member
      rw [known_of_mem.mp (Finset.mem_of_mem_erase member)] at unknown
      cases unknown
    rw [Finset.card_insert_of_notMem foreign,
      Finset.card_erase_add_one (known_of_mem.mpr known),
      List.toFinset_card_of_nodup ordered.nodup, List.length_map]
    exact full
  rw [← counted]
  refine Finset.card_le_card ?_
  change insert new (keys.erase key) ⊆ usedSince (new :: used) key
  rw [usedSince_cons_of_ne differs]
  refine Finset.insert_subset_insert new fun name member => ?_
  obtain ⟨different, stored⟩ := Finset.mem_erase.mp member
  have isKnown := known_of_mem.mp stored
  obtain ⟨said, listed⟩ := Cache.contains_iff_mem.mp isKnown
  exact mem_usedSince (ordered.known _ listed) (furthest name isKnown different)

/-- A key that is used again has been used since the last use of another one. -/
theorem usedSince_subset {operation : Operation} {cache : Cache} {used : List String}
    {key : String} (unused : operation.used? cache ≠ some key) :
    usedSince used key ⊆ usedSince ((operation.used? cache).toList ++ used) key := by
  cases same : operation.used? cache with
  | none => exact Finset.Subset.refl _
  | some name =>
      have differs : key ≠ name := by
        rintro rfl
        exact unused same
      change usedSince used key ⊆ usedSince (name :: used) key
      rw [usedSince_cons_of_ne differs]
      exact Finset.subset_insert name _

/-- An operation that uses a key, and does not decide about it, has found it. -/
theorem contains_of_used {operation : Operation} {cache : Cache} {key : String}
    (unsettled : operation.settles key = false) (used : operation.used? cache = some key) :
    cache.contains key = true := by
  cases operation with
  | put name target =>
      cases used
      exact absurd rfl (ne_of_beq_false unsettled)
  | get name =>
      rw [Operation.used?] at used
      split at used
      · next known =>
          cases used
          exact known
      · cases used
  | remove | contains | clear => cases used

/-- A key about which something is stated is remembered, unless as many other keys have been used
since its last use as there is room for. -/
theorem remembered_or_crowded {target : String} {operations : List Operation}
    (states : stated key operations = some target) :
    (Cache.after capacity operations).find? key = some target ∨
      max capacity 1 ≤ (usedSince (uses capacity operations) key).card := by
  induction operations with
  | nil => cases states
  | cons operation earlier ih =>
      change ((Cache.after capacity earlier).perform operation).2.find? key = _ ∨ _
      cases settles : operation.settles key with
      | true => exact Or.inl ((Cache.find?_perform_of_settles settles earlier).trans states)
      | false =>
          rw [stated_of_unsettled settles] at states
          rcases Cache.find?_perform (Cache.after capacity earlier) settles with
            same | ⟨displaces, _⟩
          · rw [same]
            by_cases used : operation.used? (Cache.after capacity earlier) = some key
            · -- The key has been found just now, so it is there with what was stated last.
              have known := contains_of_used settles used
              rw [Cache.contains, find?_after] at known
              rw [find?_after]
              split at known
              · cases known
              · next undisplaced => exact Or.inl ((if_neg undisplaced).trans states)
            · rcases ih states with found | crowded
              · exact Or.inl found
              · exact Or.inr (Nat.le_trans crowded (Finset.card_le_card (usedSince_subset used)))
          · rw [← capacity_after capacity earlier]
            exact Or.inr (capacity_le_usedSince (ordered_after capacity earlier) displaces)

end Histories

/-- What a cache remembers after any operations.  It holds no more entries than it has room for, and
no key twice; a look-up of a key answers with what was put under it last, unless it was removed,
cleared or displaced since then.  A key is displaced only by a new key that comes into a full cache,
and it is then the one whose last use lies furthest back; so a key is still there with its latest
target if fewer distinct other keys have been used since its last use than the cache can hold. -/
theorem recency (capacity : Nat) (operations : List Operation) :
    let cache := Cache.after capacity operations
    let used := uses capacity operations
    cache.size ≤ max capacity 1 ∧ (cache.entries.map Prod.fst).Nodup ∧
      (∀ key,
        let said := if Displaced capacity key operations then none else stated key operations
        (cache.perform (.get key)).1 = .target said ∧
          (cache.perform (.contains key)).1 = .presence said.isSome) ∧
      (∀ operation key, Displaces cache operation key ↔
        ∃ new target, operation = .put new target ∧ cache.contains new = false ∧
          cache.size = max capacity 1 ∧ FurthestBack cache used key) ∧
      ∀ key target, stated key operations = some target →
        (usedSince used key).card < max capacity 1 → cache.find? key = some target := by
  intro cache used
  have ordered : cache.Ordered used := ordered_after capacity operations
  have room : cache.capacity = max capacity 1 := capacity_after capacity operations
  refine ⟨?_, ordered.nodup, ?_, ?_, ?_⟩
  · rw [← room]
    exact ordered.bounded
  · intro key said
    have found : cache.find? key = said := find?_after capacity key operations
    constructor
    · exact congrArg Answer.target found
    · exact congrArg (fun answer : Option String => Answer.presence answer.isSome) found
  · intro operation key
    rw [← room]
    exact Cache.displaces_iff ordered
  · intro key target states fewer
    rcases remembered_or_crowded capacity key states with found | crowded
    · exact found
    · exact absurd fewer (Nat.not_lt.mpr crowded)

/-- Being found keeps a key: the other one, which was written later, makes room. -/
example :
    let operations : List Operation := [.put "c" "3", .get "a", .put "b" "2", .put "a" "1"]
    (Cache.after 2 operations).entries = [("c", "3"), ("a", "1")] ∧
      Displaced 2 "b" operations := by
  decide

end Route
end RemoteCall
