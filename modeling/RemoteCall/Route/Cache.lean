import RemoteCall.Pairs

/-!
# The routing cache

Targets of calls are remembered by key, up to a capacity.  When a new key comes into a full cache,
the key whose last use lies furthest back makes room.  Writing a key and finding it count as use;
asking whether it is there does not.
-/

namespace RemoteCall
namespace Route

/-- Remembered targets by key, most recently used first (`RequestToUriCache`). -/
structure Cache where
  capacity : Nat
  entries : List (String × String)
  capacity_pos : 0 < capacity
  deriving DecidableEq, Repr

namespace Cache

/-- How many targets a cache holds unless told otherwise (`DEFAULT_REQUEST_TO_URI_CACHE_CAPACITY`).
-/
def usualCapacity : Nat := 100

/-- An empty cache; a capacity of zero counts as one (`RequestToUriCache::new`). -/
def withCapacity (capacity : Nat) : Cache := ⟨max capacity 1, [], by omega⟩

/-- An empty cache of the usual capacity (`RequestToUriCache::default`). -/
def usual : Cache := withCapacity usualCapacity

/-- How many targets are remembered (`RequestToUriCache::len`). -/
def size (cache : Cache) : Nat := cache.entries.length

/-- Whether no target is remembered (`RequestToUriCache::is_empty`). -/
def isEmpty (cache : Cache) : Bool := cache.entries.isEmpty

/-- The target of a key, without counting as use. -/
def find? (cache : Cache) (key : String) : Option String := cache.entries.lookup key

/-- Whether a key is remembered, without counting as use (`RequestToUriCache::contains`). -/
def contains (cache : Cache) (key : String) : Bool := (cache.find? key).isSome

def others (cache : Cache) (key : String) : List (String × String) :=
  cache.entries.filter fun entry => entry.1 ≠ key

/-- Makes a key the most recently used one, if it is remembered. -/
def touch (cache : Cache) (key : String) : Cache :=
  match cache.find? key with
  | some target => { cache with entries := (key, target) :: cache.others key }
  | none => cache

/-- Looks a target up, which counts as use (`RequestToUriCache::get`). -/
def get (cache : Cache) (key : String) : Option String × Cache :=
  (cache.find? key, cache.touch key)

/-- Remembers a target (`RequestToUriCache::put`). -/
def put (cache : Cache) (key target : String) : Cache :=
  { cache with entries := ((key, target) :: cache.others key).take cache.capacity }

/-- Forgets the target of a key (`RequestToUriCache::remove`). -/
def remove (cache : Cache) (key : String) : Cache :=
  { cache with entries := cache.others key }

/-- Forgets all targets (`RequestToUriCache::clear`). -/
def clear (cache : Cache) : Cache := { cache with entries := [] }

@[simp]
theorem find?_put_self (cache : Cache) (key target : String) :
    (cache.put key target).find? key = some target := by
  obtain ⟨limit, exact⟩ := Nat.exists_eq_succ_of_ne_zero (Nat.ne_of_gt cache.capacity_pos)
  simp [put, find?, exact]

@[simp]
theorem find?_remove_self (cache : Cache) (key : String) : (cache.remove key).find? key = none :=
  Pairs.lookup_drop_self key cache.entries

theorem find?_remove_of_ne (cache : Cache) {key other : String} (differs : other ≠ key) :
    (cache.remove key).find? other = cache.find? other :=
  Pairs.lookup_drop_of_ne differs cache.entries

/-- Use changes the order of the entries and not what they say. -/
@[simp]
theorem find?_touch (cache : Cache) (key other : String) :
    (cache.touch key).find? other = cache.find? other := by
  unfold touch
  split
  · next target found =>
      by_cases same : other = key
      · rw [same, found]
        simp [find?]
      · have unequal : (other == key) = false := by simpa using same
        simp only [find?, List.lookup_cons, unequal]
        exact Pairs.lookup_drop_of_ne same cache.entries
  · rfl

end Cache
end Route
end RemoteCall
