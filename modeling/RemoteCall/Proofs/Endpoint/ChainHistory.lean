import Mathlib.Data.List.Nodup
import RemoteCall.Endpoint.Chain

/-!
# The history of a chain

A chain comes about by registering interceptors and taking them out again, each with an answer: the
number given out, or whether there was something to take out.  As long as the counter has not
started again, the answers determine the chain.  It holds exactly what was registered and not yet
taken out, in the order of registration, and the numbers that were given out run from one upwards.
-/

namespace RemoteCall
namespace Chain

variable {α : Type}

/-- What came of an operation on a chain (`RpcRequestHandler::register_interceptor` and
`RpcRequestHandler::unregister_interceptor`). -/
inductive Record (α : Type) where
  | registered (id : InterceptorId) (interceptor : α)
  | unregistered (id : InterceptorId) (removed : Bool)

namespace Record

def registration? : Record α → Option (InterceptorId × α)
  | .registered id interceptor => some (id, interceptor)
  | .unregistered _ _ => none

def removal? : Record α → Option InterceptorId
  | .unregistered id true => some id
  | .unregistered _ false | .registered _ _ => none

end Record

/-- The interceptors that were registered, with their numbers, in the order of registration. -/
def registered (records : List (Record α)) : List (InterceptorId × α) :=
  records.filterMap Record.registration?

/-- The numbers of the interceptors that were taken out. -/
def removed (records : List (Record α)) : List InterceptorId :=
  records.filterMap Record.removal?

/-- A chain that started empty, with what came of all operations on it. -/
inductive History : List (Record α) → Chain α → Prop where
  | empty : History [] Chain.empty
  | register {records : List (Record α)} {chain : Chain α} (before : History records chain)
      (interceptor : α) :
      History (records ++ [.registered (chain.register interceptor).1 interceptor])
        (chain.register interceptor).2
  | unregister {records : List (Record α)} {chain : Chain α} (before : History records chain)
      (id : InterceptorId) :
      History (records ++ [.unregistered id (chain.unregister id).1]) (chain.unregister id).2

section Records

variable (records : List (Record α)) (id : InterceptorId)

@[simp]
theorem registered_concat_registered (interceptor : α) :
    registered (records ++ [.registered id interceptor]) =
      registered records ++ [(id, interceptor)] := by
  simp [registered, Record.registration?]

@[simp]
theorem registered_concat_unregistered (answer : Bool) :
    registered (records ++ [.unregistered id answer]) = registered records := by
  simp [registered, Record.registration?]

@[simp]
theorem removed_concat_registered (interceptor : α) :
    removed (records ++ [.registered id interceptor]) = removed records := by
  simp [removed, Record.removal?]

@[simp]
theorem removed_concat_unregistered (answer : Bool) :
    removed (records ++ [.unregistered id answer]) =
      if answer then removed records ++ [id] else removed records := by
  cases answer <;> simp [removed, Record.removal?]

end Records

/-- An interceptor with a number greater than all others comes last. -/
theorem place_of_greatest {id : InterceptorId} {entries : List (InterceptorId × α)}
    (greatest : ∀ entry ∈ entries, entry.1.number < id.number) (interceptor : α) :
    place id interceptor entries = entries ++ [(id, interceptor)] := by
  induction entries with
  | nil => rfl
  | cons entry later ih =>
      have less : entry.1.number < id.number := greatest entry (by simp)
      have differs : id ≠ entry.1 := by
        intro same
        rw [same] at less
        exact Nat.lt_irrefl _ less
      have last := ih fun other member => greatest other (by simp [member])
      rw [place, if_neg (Nat.lt_asymm less), if_neg differs, last, List.cons_append]

theorem contains_iff {chain : Chain α} {id : InterceptorId} :
    chain.contains id = true ↔ id ∈ chain.entries.map Prod.fst := by
  simp [contains]

/-- The counter counts on with every registration, whether or not it starts again. -/
theorem History.next_eq {records : List (Record α)} {chain : Chain α}
    (history : History records chain) :
    chain.next = UInt64.ofNat ((registered records).length + 1) := by
  induction history with
  | empty => rfl
  | register before interceptor ih =>
      rw [registered_concat_registered, List.length_append, List.length_singleton, UInt64.ofNat_add,
        ← ih]
      rfl
  | unregister before id ih =>
      rw [registered_concat_unregistered]
      exact ih

/-- What a chain holds, given what came of the operations on it. -/
structure Accords (records : List (Record α)) (chain : Chain α) : Prop where
  /-- The numbers from one upwards were given out. -/
  numbers : (registered records).map (fun entry => entry.1.number) =
    List.range' 1 (registered records).length
  entries : chain.entries = (registered records).filter fun entry => entry.1 ∉ removed records
  /-- Only what had been registered was taken out. -/
  removals : ∀ id ∈ removed records, id ∈ (registered records).map Prod.fst

namespace Accords

variable {records : List (Record α)} {chain : Chain α} (accords : Accords records chain)

include accords

theorem number_le {id : InterceptorId} (given : id ∈ (registered records).map Prod.fst) :
    id.number ≤ (registered records).length := by
  obtain ⟨entry, member, rfl⟩ := List.mem_map.mp given
  have ranged : entry.1.number ∈ List.range' 1 (registered records).length := by
    rw [← accords.numbers]
    exact List.mem_map.mpr ⟨entry, member, rfl⟩
  have bounds := List.mem_range'_1.mp ranged
  omega

theorem mem_registered {entry : InterceptorId × α} (member : entry ∈ chain.entries) :
    entry.1 ∈ (registered records).map Prod.fst := by
  rw [accords.entries] at member
  exact List.mem_map_of_mem (List.mem_filter.mp member).1

/-- Numbers are never given out twice. -/
theorem nodup : ((registered records).map Prod.fst).Nodup := by
  apply List.Nodup.of_map InterceptorId.number
  rw [List.map_map]
  change ((registered records).map fun entry => entry.1.number).Nodup
  rw [accords.numbers]
  exact List.nodup_range'

theorem nodup_entries : (chain.entries.map Prod.fst).Nodup := by
  rw [accords.entries]
  exact accords.nodup.sublist (List.filter_sublist.map Prod.fst)

/-- Something is taken out exactly if it was registered and has not been taken out. -/
theorem unregister_iff (id : InterceptorId) :
    (chain.unregister id).1 = true ↔
      id ∈ (registered records).map Prod.fst ∧ id ∉ removed records := by
  change chain.contains id = true ↔ _
  rw [contains_iff, accords.entries]
  constructor
  · intro member
    obtain ⟨entry, kept, rfl⟩ := List.mem_map.mp member
    obtain ⟨given, present⟩ := List.mem_filter.mp kept
    exact ⟨List.mem_map_of_mem given, by simpa using present⟩
  · rintro ⟨given, present⟩
    obtain ⟨entry, member, rfl⟩ := List.mem_map.mp given
    exact List.mem_map_of_mem (List.mem_filter.mpr ⟨member, by simpa using present⟩)

theorem register (interceptor : α)
    (number : (chain.register interceptor).1.number = (registered records).length + 1) :
    Accords (records ++ [.registered (chain.register interceptor).1 interceptor])
      (chain.register interceptor).2 := by
  generalize idEq : (chain.register interceptor).1 = id at number ⊢
  have fresh : id ∉ (registered records).map Prod.fst := by
    intro given
    have bounded := accords.number_le given
    omega
  have unremoved : id ∉ removed records := fun member => fresh (accords.removals id member)
  have greatest : ∀ entry ∈ chain.entries, entry.1.number < id.number := by
    intro entry member
    have bounded := accords.number_le (accords.mem_registered member)
    omega
  have placed : (chain.register interceptor).2.entries = chain.entries ++ [(id, interceptor)] := by
    rw [← idEq] at greatest ⊢
    exact place_of_greatest greatest interceptor
  constructor
  · rw [registered_concat_registered, List.map_append, accords.numbers, List.length_append,
      List.length_singleton, List.range'_concat]
    simp [number, Nat.add_comm]
  · rw [placed, accords.entries, registered_concat_registered, removed_concat_registered,
      List.filter_append]
    simp [unremoved]
  · intro other member
    rw [removed_concat_registered] at member
    rw [registered_concat_registered, List.map_append]
    exact List.mem_append_left _ (accords.removals other member)

theorem unregister (id : InterceptorId) :
    Accords (records ++ [.unregistered id (chain.unregister id).1]) (chain.unregister id).2 := by
  have answer := accords.unregister_iff id
  generalize (chain.unregister id).1 = found at answer ⊢
  have entries : (chain.unregister id).2.entries =
      (registered records).filter fun entry => entry.1 ∉ removed records ∧ entry.1 ≠ id := by
    change chain.entries.filter (fun entry => entry.1 ≠ id) = _
    rw [accords.entries, List.filter_filter]
    congr 1
    funext entry
    simp [and_comm]
  constructor
  · rw [registered_concat_unregistered]
    exact accords.numbers
  · rw [entries, registered_concat_unregistered, removed_concat_unregistered]
    cases found with
    | true => simp
    | false =>
        -- Nothing is registered under the number, or it has been taken out already.
        have absent : ∀ entry ∈ registered records, entry.1 ∉ removed records → entry.1 ≠ id := by
          intro entry member present same
          subst same
          have both : entry.1 ∈ (registered records).map Prod.fst ∧ entry.1 ∉ removed records :=
            ⟨List.mem_map_of_mem member, present⟩
          exact Bool.false_ne_true (answer.mpr both)
        apply List.filter_congr
        intro entry member
        by_cases present : entry.1 ∈ removed records
        · simp [present]
        · simp [present, absent entry member present]
  · intro other member
    rw [registered_concat_unregistered]
    rw [removed_concat_unregistered] at member
    cases found with
    | true =>
        rcases List.mem_append.mp member with earlier | last
        · exact accords.removals other earlier
        · rw [List.mem_singleton.mp last]
          exact (answer.mp rfl).1
    | false => exact accords.removals other member

end Accords

/-- With fewer registrations than the counter can count, a chain is what its history says. -/
theorem History.accords {records : List (Record α)} {chain : Chain α}
    (history : History records chain) (few : (registered records).length < UInt64.size) :
    Accords records chain := by
  induction history with
  | empty => exact ⟨rfl, rfl, nofun⟩
  | @register records chain before interceptor ih =>
      rw [registered_concat_registered, List.length_append, List.length_singleton] at few
      have number : (chain.register interceptor).1.number = (registered records).length + 1 := by
        change chain.next.toNat = _
        rw [before.next_eq, UInt64.toNat_ofNat']
        exact Nat.mod_eq_of_lt few
      exact (ih (by omega)).register interceptor number
  | unregister before id ih =>
      rw [registered_concat_unregistered] at few
      exact (ih few).unregister id

end Chain
end RemoteCall
