import GracefulStop.KeyMap
import Mathlib.Tactic.SplitIfs
import Mathlib.Tactic.Tauto

/-!
# Maps sorted by key

A map that is made of entries has their keys, and only entries of theirs. One that is made of entries
in ascending order of their keys is these entries.
-/

namespace GracefulStop

namespace KeyMap

variable {Value : Type} {map overrides : KeyMap Value} {key : String} {value : Value}

/-- Entries in strictly ascending order of their keys, as those of a map are. -/
def IsSorted (map : KeyMap Value) : Prop := map.Pairwise fun entry other => entry.1 < other.1

theorem insert_last (below : ∀ entry ∈ map, entry.1 < key) :
    insert key value map = map ++ [(key, value)] := by
  induction map with
  | nil => rfl
  | cons entry map ih =>
      have first := below entry List.mem_cons_self
      have unlike : key ≠ entry.1 := by
        intro same
        exact String.lt_irrefl _ (same ▸ first)
      simp [insert, String.lt_asymm first, unlike,
        ih fun entry member => below entry (List.mem_cons_of_mem _ member)]

theorem ofList_sorted (sorted : IsSorted map) : ofList map = map := by
  have entered : ∀ front : KeyMap Value, IsSorted (front ++ map) →
      map.foldl (fun map entry => insert entry.1 entry.2 map) front = front ++ map := by
    induction map with
    | nil => simp
    | cons entry map ih =>
        intro front sorted
        have below : ∀ other ∈ front, other.1 < entry.1 := fun other member =>
          (List.pairwise_append.mp sorted).2.2 other member entry List.mem_cons_self
        rw [List.foldl_cons, insert_last below,
          ih (List.pairwise_cons.mp (List.pairwise_append.mp sorted).2.1).2 _ (by simpa using sorted)]
        simp
  exact entered [] sorted

theorem IsSorted.nodup (sorted : IsSorted map) : (map.map (·.1)).Nodup := by
  rw [List.Nodup, List.pairwise_map]
  refine sorted.imp fun {entry other} less => ?_
  rintro same
  exact String.lt_irrefl _ (same ▸ less)

/-! ## Entries one after another -/

theorem mem_insert {entry : String × Value} (member : entry ∈ insert key value map) :
    entry = (key, value) ∨ entry ∈ map := by
  induction map with
  | nil => exact .inl (List.mem_singleton.mp member)
  | cons first map ih =>
      rw [insert] at member
      split_ifs at member
      · exact List.mem_cons.mp member
      · rcases List.mem_cons.mp member with here | later
        · exact .inl here
        · exact .inr (List.mem_cons_of_mem _ later)
      · rcases List.mem_cons.mp member with rfl | later
        · exact .inr List.mem_cons_self
        · exact (ih later).imp_right (List.mem_cons_of_mem _)

theorem mem_keys_insert {other : String} :
    other ∈ (insert key value map).map (·.1) ↔ other = key ∨ other ∈ map.map (·.1) := by
  induction map with
  | nil => simp [insert]
  | cons first map ih =>
      rw [insert]
      split_ifs with less same
      · simp
      · simp [same]
      · rw [List.map_cons, List.mem_cons, ih, List.map_cons, List.mem_cons]
        tauto

theorem mem_enter {entries : List (String × Value)} {entry : String × Value}
    (member : entry ∈ entries.foldl (fun map entry => insert entry.1 entry.2 map) map) :
    entry ∈ map ∨ entry ∈ entries := by
  induction entries generalizing map with
  | nil => exact .inl member
  | cons first entries ih =>
      rcases ih member with earlier | later
      · rcases mem_insert earlier with rfl | before
        · exact .inr List.mem_cons_self
        · exact .inl before
      · exact .inr (List.mem_cons_of_mem _ later)

theorem mem_ofList {entries : List (String × Value)} {entry : String × Value}
    (member : entry ∈ ofList entries) : entry ∈ entries :=
  (mem_enter member).resolve_left List.not_mem_nil

theorem mem_keys_enter {entries : List (String × Value)} :
    key ∈ (entries.foldl (fun map entry => insert entry.1 entry.2 map) map).map (·.1) ↔
      key ∈ map.map (·.1) ∨ key ∈ entries.map (·.1) := by
  induction entries generalizing map with
  | nil => simp
  | cons first entries ih =>
      rw [List.foldl_cons, ih, mem_keys_insert, List.map_cons, List.mem_cons]
      tauto

theorem mem_keys_ofList {entries : List (String × Value)} :
    key ∈ (ofList entries).map (·.1) ↔ key ∈ entries.map (·.1) :=
  mem_keys_enter.trans (or_iff_right List.not_mem_nil)

/-! ## The order of entries -/

theorem IsSorted.insert (sorted : IsSorted map) (key : String) (value : Value) :
    IsSorted (insert key value map) := by
  induction map with
  | nil => exact List.pairwise_singleton _ _
  | cons first map ih =>
      obtain ⟨above, rest⟩ := List.pairwise_cons.mp sorted
      rw [KeyMap.insert]
      split_ifs with less same
      · refine List.pairwise_cons.mpr ⟨fun other member => ?_, sorted⟩
        rcases List.mem_cons.mp member with rfl | later
        · exact less
        · exact String.lt_trans less (above other later)
      · exact List.pairwise_cons.mpr ⟨fun other member => same ▸ above other member, rest⟩
      · refine List.pairwise_cons.mpr ⟨fun other member => ?_, ih rest⟩
        rcases mem_insert member with rfl | before
        · exact String.not_le.mp fun notAbove =>
            same (String.le_antisymm notAbove (String.not_lt.mp less))
        · exact above other before

theorem IsSorted.enter (sorted : IsSorted map) (entries : List (String × Value)) :
    IsSorted (entries.foldl (fun map entry => KeyMap.insert entry.1 entry.2 map) map) := by
  induction entries generalizing map with
  | nil => exact sorted
  | cons first entries ih => exact ih (sorted.insert first.1 first.2)

theorem isSorted_ofList (entries : List (String × Value)) : IsSorted (ofList entries) :=
  IsSorted.enter .nil entries

theorem IsSorted.override (sorted : IsSorted map) (overrides : KeyMap Value) :
    IsSorted (map.override overrides) := sorted.enter overrides

/-! ## Looking up -/

theorem lookup_cons {entry : String × Value} :
    List.lookup key (entry :: map) = if key = entry.1 then some entry.2 else map.lookup key := by
  rw [List.lookup_cons]
  by_cases same : key = entry.1
  · rw [if_pos same, beq_iff_eq.mpr same]
  · rw [if_neg same, beq_eq_false_iff_ne.mpr same]

theorem lookup_insert {other : String} :
    (insert key value map).lookup other = if other = key then some value else map.lookup other := by
  induction map with
  | nil => exact lookup_cons
  | cons first map ih =>
      rw [insert]
      split_ifs with less same here here <;> simp only [lookup_cons, ih] <;> grind

/-- Of entries that are entered one after another, the last one of a key is found; where there is none,
what was there before. -/
theorem lookup_enter {entries : List (String × Value)} :
    (entries.foldl (fun map entry => insert entry.1 entry.2 map) map).lookup key =
      (entries.reverse.lookup key).or (map.lookup key) := by
  induction entries generalizing map with
  | nil => rfl
  | cons first entries ih =>
      rw [List.foldl_cons, ih, lookup_insert, List.reverse_cons, List.lookup_append, lookup_cons,
        List.lookup_nil, Option.or_assoc]
      split_ifs <;> rfl

theorem lookup_ofList (entries : List (String × Value)) :
    (ofList entries).lookup key = entries.reverse.lookup key := by
  rw [ofList, lookup_enter, List.lookup_nil, Option.or_none]

theorem IsSorted.mem_iff (sorted : IsSorted map) :
    (key, value) ∈ map ↔ map.lookup key = some value := by
  induction map with
  | nil => simp
  | cons first map ih =>
      obtain ⟨above, rest⟩ := List.pairwise_cons.mp sorted
      rw [List.mem_cons, ih rest, lookup_cons]
      split_ifs with same
      · have later : map.lookup key ≠ some value := fun found =>
          String.lt_irrefl key (same ▸ above (key, value) ((ih rest).mpr found))
        rw [or_iff_left later, Prod.ext_iff]
        simp [same, eq_comm]
      · simp [same, Prod.ext_iff]

theorem IsSorted.reverse_lookup (sorted : IsSorted map) :
    List.lookup key map.reverse = map.lookup key := by
  rw [← lookup_ofList, ofList_sorted sorted]

theorem lookup_override (sorted : IsSorted overrides) :
    (map.override overrides).lookup key = (overrides.lookup key).or (map.lookup key) := by
  rw [override, lookup_enter, sorted.reverse_lookup]

end KeyMap

end GracefulStop
