import RemoteCall.Http.Fields
import Mathlib.Data.List.Nodup

/-!
# How often a field occurs

Fields may hold several values of one name.  Where they hold at most one of each, as they do when
every value is set and none is appended, they are known by what they answer for each name; so two
such lists of fields with the same answers are listed in the same way in the order of their names.
-/

namespace RemoteCall
namespace Fields

variable {fields first second : Fields} {name : FieldName} {value : FieldValue}

/-- All values of a name, the first one first. -/
def values (fields : Fields) (name : FieldName) : List FieldValue :=
  (fields.entries.filter fun entry => entry.1 = name).map Prod.snd

/-- No name occurs twice. -/
def Distinct (fields : Fields) : Prop := (fields.entries.map Prod.fst).Nodup

theorem distinct_empty : empty.Distinct := List.nodup_nil

theorem distinct_set (distinct : fields.Distinct) (name : FieldName) (value : FieldValue) :
    (fields.set name value).Distinct := by
  have kept : ((fields.erase name).entries.map Prod.fst).Nodup :=
    distinct.sublist (List.filter_sublist.map Prod.fst)
  rw [Distinct, set, append, List.map_append, List.nodup_append]
  refine ⟨kept, List.nodup_singleton name, ?_⟩
  rintro other member only isOnly rfl
  obtain ⟨entry, stored, rfl⟩ := List.mem_map.mp member
  have differs : entry.1 ≠ name := by simpa using (List.mem_filter.mp stored).2
  exact differs (List.mem_singleton.mp isOnly)

theorem mem_set {entry : FieldName × FieldValue}
    (member : entry ∈ (fields.set name value).entries) :
    entry = (name, value) ∨ entry ∈ fields.entries := by
  rcases List.mem_append.mp member with stored | only
  · exact Or.inr (List.mem_filter.mp stored).1
  · exact Or.inl (List.mem_singleton.mp only)

theorem mem_of_find? (found : fields.find? name = some value) :
    (name, value) ∈ fields.entries := by
  obtain ⟨earlier, later, split, _⟩ := List.lookup_eq_some_iff.mp found
  rw [split]
  exact List.mem_append_right earlier List.mem_cons_self

theorem mem_iff_find? (distinct : fields.Distinct) :
    (name, value) ∈ fields.entries ↔ fields.find? name = some value :=
  ⟨Pairs.lookup_of_mem distinct, mem_of_find?⟩

/-- Where names occur once at most, the values of a name are the one that is found, if any. -/
theorem values_eq_toList (distinct : fields.Distinct) (name : FieldName) :
    fields.values name = (fields.find? name).toList := by
  obtain ⟨entries⟩ := fields
  unfold Distinct values find? at *
  induction entries with
  | nil => rfl
  | cons entry later ih =>
      rw [List.map_cons, List.nodup_cons] at distinct
      obtain ⟨once, distinct⟩ := distinct
      by_cases same : entry.1 = name
      · subst same
        have absent : later.lookup entry.1 = none := by
          rw [List.lookup_eq_none_iff]
          intro other stored
          have differs : entry.1 ≠ other.1 := by
            intro same
            rw [same] at once
            exact once (List.mem_map_of_mem stored)
          exact bne_iff_ne.mpr differs
        rw [List.filter_cons_of_pos (by simp), List.map_cons, ih distinct, absent,
          List.lookup_cons, beq_self_eq_true]
        rfl
      · have unequal : (name == entry.1) = false := beq_false_of_ne (Ne.symm same)
        rw [List.filter_cons_of_neg (by simpa using same), ih distinct, List.lookup_cons, unequal]

/-- Fields without repetitions are listed by what they answer for each name. -/
theorem sorted_eq (one : first.Distinct) (two : second.Distinct)
    (same : ∀ name, first.find? name = second.find? name) : first.sorted = second.sorted := by
  have listed : first.entries.Perm second.entries := by
    rw [List.perm_ext_iff_of_nodup (List.Nodup.of_map _ one) (List.Nodup.of_map _ two)]
    rintro ⟨name, value⟩
    rw [mem_iff_find? one, mem_iff_find? two, same]
  have ordered (fields : Fields) :
      fields.sorted.Pairwise fun first second => first.1.lower ≤ second.1.lower := by
    have sorted : fields.sorted.Pairwise fun first second =>
        decide (first.1.lower ≤ second.1.lower) = true :=
      List.pairwise_mergeSort (fun _ _ _ => by simpa using String.le_trans)
        (fun _ _ => by simpa using String.le_total _ _) fields.entries
    exact sorted.imp of_decide_eq_true
  refine List.Perm.eq_of_pairwise ?_ (ordered first) (ordered second)
    ((List.mergeSort_perm _ _).trans (listed.trans (List.mergeSort_perm _ _).symm))
  -- Of two entries with one name, both are what is found under it.
  intro entry other member otherMember le ge
  have sameName : entry.1 = other.1 :=
    congrArg FieldName.mk (String.le_antisymm le ge)
  have found := (mem_iff_find? one).mp (List.mem_mergeSort.mp member)
  have otherFound := (mem_iff_find? two).mp (List.mem_mergeSort.mp otherMember)
  rw [sameName, same, otherFound] at found
  exact Prod.ext sameName (Option.some.inj found).symm

end Fields
end RemoteCall
