import RemoteCall.Proofs.Route.Frame
import Mathlib.Data.Finset.Card
import Mathlib.Data.Finset.Option
import Mathlib.Data.List.Nodup

/-!
# Work on a cache with room

As long as a cache has room for every key that may come into it, no entry makes way for another one.
What is then done under some keys leaves the others as they are, and it comes out the same whatever
the others say; so a piece of work can be judged by the keys that it touches.
-/

namespace RemoteCall
namespace Route
namespace Cache

variable {involved keys : Finset String} {cache : Cache} {key : String}

/-- A cache with room for all the keys that are involved, and with no others. -/
structure Roomy (involved : Finset String) (cache : Cache) : Prop where
  distinct : (cache.entries.map Prod.fst).Nodup
  known : ∀ entry ∈ cache.entries, entry.1 ∈ involved
  room : involved.card ≤ cache.capacity

/-- Two caches say the same about some keys. -/
def AgreeOn (keys : Finset String) (first second : Cache) : Prop :=
  ∀ key ∈ keys, first.find? key = second.find? key

theorem AgreeOn.refl (keys : Finset String) (cache : Cache) : AgreeOn keys cache cache :=
  fun _ _ => rfl

theorem roomy_withCapacity {capacity : Nat} (room : involved.card ≤ capacity) :
    Roomy involved (withCapacity capacity) where
  distinct := List.nodup_nil
  known := nofun
  room := Nat.le_trans room (Nat.le_max_left capacity 1)

namespace Roomy

theorem others (roomy : Roomy involved cache) (key : String) :
    ((cache.others key).map Prod.fst).Nodup ∧
      ∀ entry ∈ cache.others key, entry.1 ∈ involved.erase key := by
  constructor
  · exact roomy.distinct.sublist (List.filter_sublist.map Prod.fst)
  · intro entry member
    obtain ⟨stored, differs⟩ := List.mem_filter.mp member
    exact Finset.mem_erase.mpr ⟨by simpa using differs, roomy.known entry stored⟩

/-- There is room for an entry of each key that is involved. -/
theorem others_lt (roomy : Roomy involved cache) (own : key ∈ involved) :
    (cache.others key).length < cache.capacity := by
  obtain ⟨distinct, known⟩ := roomy.others key
  have within : ((cache.others key).map Prod.fst).toFinset ⊆ involved.erase key := by
    intro name member
    obtain ⟨entry, stored, rfl⟩ := List.mem_map.mp (List.mem_toFinset.mp member)
    exact known entry stored
  have counted := Finset.card_le_card within
  rw [List.toFinset_card_of_nodup distinct, List.length_map] at counted
  have fewer := Finset.card_erase_lt_of_mem own
  have room := roomy.room
  omega

theorem entries_put (roomy : Roomy involved cache) (own : key ∈ involved) (target : String) :
    (cache.put key target).entries = (key, target) :: cache.others key :=
  entries_put_of_room (roomy.others_lt own) target

theorem fronted (roomy : Roomy involved cache) (own : key ∈ involved) (target : String)
    {after : Cache} (capacity : after.capacity = cache.capacity)
    (entries : after.entries = (key, target) :: cache.others key) : Roomy involved after := by
  obtain ⟨distinct, known⟩ := roomy.others key
  refine ⟨?_, ?_, ?_⟩
  · rw [entries, List.map_cons, List.nodup_cons]
    refine ⟨?_, distinct⟩
    intro member
    obtain ⟨entry, stored, same⟩ := List.mem_map.mp member
    exact Finset.ne_of_mem_erase (known entry stored) same
  · rw [entries]
    intro entry member
    rcases List.mem_cons.mp member with rfl | stored
    · exact own
    · exact Finset.mem_of_mem_erase (known entry stored)
  · rw [capacity]
    exact roomy.room

theorem put (roomy : Roomy involved cache) (own : key ∈ involved) (target : String) :
    Roomy involved (cache.put key target) :=
  roomy.fronted own target rfl (roomy.entries_put own target)

theorem remove (roomy : Roomy involved cache) (key : String) :
    Roomy involved (cache.remove key) where
  distinct := (roomy.others key).1
  known entry member := Finset.mem_of_mem_erase ((roomy.others key).2 entry member)
  room := roomy.room

theorem touch (roomy : Roomy involved cache) (key : String) :
    Roomy involved (cache.touch key) := by
  unfold Cache.touch
  cases found : cache.find? key with
  | none => exact roomy
  | some target =>
      have stored : (key, target) ∈ cache.entries := mem_of_find? found
      exact roomy.fronted (roomy.known _ stored) target rfl rfl

theorem find?_put_of_ne (roomy : Roomy involved cache) (own : key ∈ involved) (target : String)
    {other : String} (differs : other ≠ key) :
    (cache.put key target).find? other = cache.find? other :=
  find?_put_of_room (roomy.others_lt own) target differs

end Roomy

/-- Work on a cache under some keys.  It keeps the room, and its result meets a condition; it leaves
what other keys say as it is, and what it does depends on what its own keys say alone. -/
structure Isolated {Result : Type} (involved keys : Finset String) (condition : Result → Prop)
    (work : Cache → Result × Cache) : Prop where
  meets : ∀ cache, condition (work cache).1
  roomy : ∀ {cache}, Roomy involved cache → Roomy involved (work cache).2
  framed : ∀ {cache}, Roomy involved cache → ∀ key ∉ keys,
    (work cache).2.find? key = cache.find? key
  blind : ∀ {first second}, Roomy involved first → Roomy involved second →
    AgreeOn keys first second →
      (work first).1 = (work second).1 ∧ AgreeOn keys (work first).2 (work second).2

namespace Isolated

variable {Result Other : Type} {condition : Result → Prop} {further : Other → Prop}

theorem pure {result : Result} (meets : condition result) :
    Isolated involved keys condition fun cache => (result, cache) where
  meets _ := meets
  roomy roomy := roomy
  framed _ _ _ := rfl
  blind _ _ agree := ⟨rfl, agree⟩

theorem bind {work : Cache → Result × Cache} (first : Isolated involved keys condition work)
    (next : Result → Cache → Other × Cache)
    (later : ∀ result, condition result → Isolated involved keys further (next result)) :
    Isolated involved keys further fun cache => next (work cache).1 (work cache).2 where
  meets cache := (later _ (first.meets cache)).meets _
  roomy {cache} roomy := (later _ (first.meets cache)).roomy (first.roomy roomy)
  framed {cache} roomy key other :=
    ((later _ (first.meets cache)).framed (first.roomy roomy) key other).trans
      (first.framed roomy key other)
  blind {one} {two} roomyOne roomyTwo agree := by
    obtain ⟨same, agreeing⟩ := first.blind roomyOne roomyTwo agree
    rw [same]
    exact (later _ (first.meets two)).blind (first.roomy roomyOne) (first.roomy roomyTwo) agreeing

/-- What is done may depend on the entry of an own key. -/
theorem of_find? (own : key ∈ keys) {work : Cache → Result × Cache}
    (each : ∀ found, ∃ next, Isolated involved keys condition next ∧
      ∀ cache, cache.find? key = found → work cache = next cache) :
    Isolated involved keys condition work where
  meets cache := by
    obtain ⟨next, isolated, same⟩ := each (cache.find? key)
    rw [same cache rfl]
    exact isolated.meets cache
  roomy {cache} roomy := by
    obtain ⟨next, isolated, same⟩ := each (cache.find? key)
    rw [same cache rfl]
    exact isolated.roomy roomy
  framed {cache} roomy := by
    obtain ⟨next, isolated, same⟩ := each (cache.find? key)
    rw [same cache rfl]
    exact isolated.framed roomy
  blind {first} {second} roomyFirst roomySecond agree := by
    obtain ⟨next, isolated, same⟩ := each (first.find? key)
    rw [same first rfl, same second (agree key own).symm]
    exact isolated.blind roomyFirst roomySecond agree

theorem touch (key : String) {result : Result} (meets : condition result) :
    Isolated involved keys condition fun cache => (result, cache.touch key) where
  meets _ := meets
  roomy roomy := roomy.touch key
  framed _ _ _ := find?_touch _ _ _
  blind _ _ agree := by
    refine ⟨rfl, fun name own => ?_⟩
    rw [find?_touch, find?_touch]
    exact agree name own

theorem remove (own : key ∈ keys) {result : Result} (meets : condition result) :
    Isolated involved keys condition fun cache => (result, cache.remove key) where
  meets _ := meets
  roomy roomy := roomy.remove key
  framed _ name other := find?_remove_of_ne _ (ne_of_mem_of_not_mem own other).symm
  blind _ _ agree := by
    refine ⟨rfl, fun name member => ?_⟩
    by_cases same : name = key
    · rw [same, find?_remove_self, find?_remove_self]
    · rw [find?_remove_of_ne _ same, find?_remove_of_ne _ same]
      exact agree name member

theorem put (within : keys ⊆ involved) (own : key ∈ keys) (target : String) {result : Result}
    (meets : condition result) :
    Isolated involved keys condition fun cache => (result, cache.put key target) where
  meets _ := meets
  roomy roomy := roomy.put (within own) target
  framed roomy name other :=
    roomy.find?_put_of_ne (within own) target (ne_of_mem_of_not_mem own other).symm
  blind roomyOne roomyTwo agree := by
    refine ⟨rfl, fun name member => ?_⟩
    by_cases same : name = key
    · rw [same, find?_put_self, find?_put_self]
    · rw [roomyOne.find?_put_of_ne (within own) target same,
        roomyTwo.find?_put_of_ne (within own) target same]
      exact agree name member

end Isolated

end Cache
end Route
end RemoteCall
