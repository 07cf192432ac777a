/-!
# Looking up pairs

A list of pairs maps a key to the value of its first pair with that key.  Dropping all pairs of a
key makes the key unknown and leaves the others as they are, and a pair at the end counts only for
a key that is not there yet.
-/

namespace RemoteCall
namespace Pairs

variable {Key Val : Type} [DecidableEq Key]

theorem lookup_drop_self (key : Key) (pairs : List (Key × Val)) :
    (pairs.filter fun pair => pair.1 ≠ key).lookup key = none := by
  rw [List.lookup_eq_none_iff]
  intro pair member
  have differs : pair.1 ≠ key := by simpa using (List.mem_filter.1 member).2
  simpa using Ne.symm differs

theorem lookup_drop_of_ne {key other : Key} (differs : other ≠ key) (pairs : List (Key × Val)) :
    (pairs.filter fun pair => pair.1 ≠ key).lookup other = pairs.lookup other := by
  induction pairs with
  | nil => rfl
  | cons pair later inductionStep =>
      by_cases dropped : pair.1 = key
      · have unequal : (other == pair.1) = false := by simpa [dropped] using differs
        rw [List.filter_cons_of_neg (by simpa using dropped), inductionStep, List.lookup_cons,
          unequal]
      · rw [List.filter_cons_of_pos (by simpa using dropped), List.lookup_cons, List.lookup_cons,
          inductionStep]

theorem lookup_concat (pairs : List (Key × Val)) (key other : Key) (found : Val) :
    (pairs ++ [(key, found)]).lookup other =
      (pairs.lookup other).or (if other = key then some found else none) := by
  rw [List.lookup_append, List.lookup_cons, List.lookup_nil]
  by_cases same : other = key
  · simp [same]
  · have unequal : (other == key) = false := by simpa using same
    simp only [unequal, same, if_false]

/-- Where no key occurs twice, every pair is found. -/
theorem lookup_of_mem {pairs : List (Key × Val)} {key : Key} {value : Val}
    (distinct : (pairs.map Prod.fst).Nodup) (member : (key, value) ∈ pairs) :
    pairs.lookup key = some value := by
  induction pairs with
  | nil => cases member
  | cons pair later inductionStep =>
      rw [List.map_cons, List.nodup_cons] at distinct
      rcases List.mem_cons.mp member with rfl | laterMember
      · rw [List.lookup_cons, beq_self_eq_true]
      · have isKey : key ∈ later.map Prod.fst := List.mem_map_of_mem laterMember
        have unequal : (key == pair.1) = false := by
          rw [beq_eq_false_iff_ne]
          rintro rfl
          exact distinct.1 isKey
        rw [List.lookup_cons, unequal]
        exact inductionStep distinct.2 laterMember

theorem lookup_replace (pairs : List (Key × Val)) (key other : Key) (value : Val) :
    (pairs.map fun pair => if pair.1 = key then (pair.1, value) else pair).lookup other =
      if other = key then (pairs.lookup other).map fun _ => value else pairs.lookup other := by
  induction pairs with
  | nil => simp
  | cons pair later inductionStep =>
      rw [List.map_cons]
      by_cases replaced : pair.1 = key
      · rw [if_pos replaced, List.lookup_cons, List.lookup_cons]
        cases same : other == pair.1 with
        | true =>
            have isKey : other = key := (beq_iff_eq.mp same).trans replaced
            rw [if_pos isKey, Option.map_some]
        | false => exact inductionStep
      · rw [if_neg replaced, List.lookup_cons, List.lookup_cons]
        cases same : other == pair.1 with
        | true =>
            have notKey : other ≠ key :=
              fun isKey => replaced ((beq_iff_eq.mp same).symm.trans isKey)
            rw [if_neg notKey]
        | false => exact inductionStep

end Pairs
end RemoteCall
