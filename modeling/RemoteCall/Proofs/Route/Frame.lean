import RemoteCall.Route.Cache

/-!
# What work under one key leaves alone

Remembering, finding and forgetting the target of one key leaves the entries of all other keys as
they are, in their order.  Only a full cache may lose some of them, when the one key comes into it;
and then it loses those whose last use lies furthest back, no more than make room.
-/

namespace RemoteCall
namespace Route
namespace Cache

variable {before after : Cache} {key target : String}

@[simp]
theorem others_remove (cache : Cache) (key : String) :
    (cache.remove key).others key = cache.others key := by
  simp [remove, others]

@[simp]
theorem others_touch (cache : Cache) (key : String) :
    (cache.touch key).others key = cache.others key := by
  unfold touch
  split
  · simp [others]
  · rfl

@[simp]
theorem others_put (cache : Cache) (key target : String) :
    (cache.put key target).others key = (cache.others key).take (cache.capacity - 1) := by
  obtain ⟨limit, exact⟩ := Nat.exists_eq_succ_of_ne_zero (Nat.ne_of_gt cache.capacity_pos)
  have kept : ∀ entry ∈ (cache.others key).take limit, entry.1 ≠ key := by
    intro entry member
    simpa using (List.mem_filter.mp (List.mem_of_mem_take member)).2
  have unchanged : ((cache.others key).take limit).filter (fun entry => entry.1 ≠ key) =
      (cache.others key).take limit :=
    List.filter_eq_self.mpr fun entry member => by simpa using kept entry member
  change (((key, target) :: cache.others key).take cache.capacity).filter
    (fun entry => entry.1 ≠ key) = _
  rw [exact]
  simpa using unchanged

@[simp]
theorem capacity_touch (cache : Cache) (key : String) :
    (cache.touch key).capacity = cache.capacity := by
  unfold touch
  split <;> rfl

theorem mem_of_find? (found : before.find? key = some target) :
    (key, target) ∈ before.entries := by
  obtain ⟨earlier, later, split, _⟩ := List.lookup_eq_some_iff.mp found
  rw [split]
  exact List.mem_append_right earlier List.mem_cons_self

section Members

variable {entry : String × String}

theorem mem_of_mem_others (member : entry ∈ before.others key) : entry ∈ before.entries :=
  (List.mem_filter.mp member).1

theorem mem_of_mem_remove (member : entry ∈ (before.remove key).entries) :
    entry ∈ before.entries :=
  mem_of_mem_others member

theorem mem_of_mem_touch (member : entry ∈ (before.touch key).entries) :
    entry ∈ before.entries := by
  unfold touch at member
  split at member
  · next target found =>
      rcases List.mem_cons.mp member with rfl | other
      · exact mem_of_find? found
      · exact mem_of_mem_others other
  · exact member

/-- No entry comes into a cache but the one that is written. -/
theorem mem_of_mem_put (member : entry ∈ (before.put key target).entries) :
    entry = (key, target) ∨ entry ∈ before.entries := by
  rcases List.mem_cons.mp (List.mem_of_mem_take member) with written | other
  · exact Or.inl written
  · exact Or.inr (mem_of_mem_others other)

end Members

theorem others_of_find? (absent : before.find? key = none) :
    before.others key = before.entries := by
  rw [find?, List.lookup_eq_none_iff] at absent
  refine List.filter_eq_self.mpr fun entry member => ?_
  have differs : key ≠ entry.1 := by simpa using absent entry member
  simpa using differs.symm

/-- Putting one key in front does not change what is found of another one. -/
theorem lookup_fronted {other : String} (cache : Cache) (target : String) (differs : other ≠ key) :
    ((key, target) :: cache.others key).lookup other = cache.find? other := by
  have unequal : (other == key) = false := by simpa using differs
  rw [List.lookup_cons, unequal]
  exact Pairs.lookup_drop_of_ne differs cache.entries

section Room

variable {cache : Cache} (room : (cache.others key).length < cache.capacity) (target : String)

include room

/-- With room for one more entry, nothing makes way for a key that is written. -/
theorem entries_put_of_room :
    (cache.put key target).entries = (key, target) :: cache.others key :=
  List.take_of_length_le (by rw [List.length_cons]; omega)

theorem find?_put_of_room {other : String} (differs : other ≠ key) :
    (cache.put key target).find? other = cache.find? other := by
  rw [find?, entries_put_of_room room]
  exact lookup_fronted cache target differs

end Room

/-- What work under a key, or under none at all, may have made of a cache. -/
structure Framed (key : Option String) (before after : Cache) : Prop where
  capacity : after.capacity = before.capacity
  /-- Without a key nothing happens. -/
  unkeyed : key = none → after.entries = before.entries
  /-- The entries of other keys stay, except for those that make room in a full cache. -/
  keyed : ∀ name, key = some name →
    after.others name = before.others name ∨
      before.capacity ≤ (before.others name).length ∧
        after.others name = (before.others name).take (before.capacity - 1)

namespace Framed

theorem refl (key : Option String) (cache : Cache) : Framed key cache cache :=
  ⟨rfl, fun _ => rfl, fun _ _ => Or.inl rfl⟩

/-- Work that leaves the entries of other keys alone can be added. -/
theorem quietly (framed : Framed (some key) before after) {last : Cache}
    (capacity : last.capacity = after.capacity) (quiet : last.others key = after.others key) :
    Framed (some key) before last where
  capacity := capacity.trans framed.capacity
  unkeyed := nofun
  keyed name same := by
    cases same
    rw [quiet]
    exact framed.keyed key rfl

theorem remove (framed : Framed (some key) before after) :
    Framed (some key) before (after.remove key) :=
  framed.quietly rfl (others_remove after key)

theorem touch (framed : Framed (some key) before after) :
    Framed (some key) before (after.touch key) :=
  framed.quietly (capacity_touch after key) (others_touch after key)

theorem put (framed : Framed (some key) before after) (target : String) :
    Framed (some key) before (after.put key target) where
  capacity := framed.capacity
  unkeyed := nofun
  keyed name same := by
    cases same
    rw [others_put, framed.capacity]
    rcases framed.keyed key rfl with same | ⟨full, displaced⟩
    · rw [same]
      by_cases full : before.capacity ≤ (before.others key).length
      · exact Or.inr ⟨full, rfl⟩
      · exact Or.inl (List.take_of_length_le (by omega))
    · rw [displaced, List.take_take, Nat.min_self]
      exact Or.inr ⟨full, rfl⟩

/-- Whatever other entries there are were there before. -/
theorem others_subset (framed : Framed (some key) before after) {entry : String × String}
    (member : entry ∈ after.others key) : entry ∈ before.entries := by
  rcases framed.keyed key rfl with same | ⟨_, displaced⟩
  · rw [same] at member
    exact (List.mem_filter.mp member).1
  · rw [displaced] at member
    exact (List.mem_filter.mp (List.mem_of_mem_take member)).1

/-- Without an entry of the key there are only those of other keys. -/
theorem entries_of_forgotten (framed : Framed (some key) before after)
    (forgotten : after.find? key = none) :
    after.entries = before.others key ∨
      before.capacity ≤ (before.others key).length ∧
        after.entries = (before.others key).take (before.capacity - 1) := by
  rw [← others_of_find? forgotten]
  exact framed.keyed key rfl

theorem subset_of_forgotten {key : Option String} (framed : Framed key before after)
    (forgotten : ∀ name, key = some name → after.find? name = none) {entry : String × String}
    (member : entry ∈ after.entries) : entry ∈ before.entries := by
  cases key with
  | none =>
      rw [framed.unkeyed rfl] at member
      exact member
  | some name =>
      rw [← others_of_find? (forgotten name rfl)] at member
      exact framed.others_subset member

end Framed

end Cache
end Route
end RemoteCall
