import BackboneLab.Ordered.Map
import Mathlib.Data.List.Induction
import Mathlib.Data.List.Nodup

/-!
# Look-ups in collected maps

Of a list that gives no key twice, the collected map holds exactly the entries
(`OrderedMap.find?_ofList_of_mem`, `OrderedMap.find?_ofList_of_not_mem`), in the order of their keys
(`OrderedMap.entries_ofList_perm`), and a map is collected again from its own entries
(`OrderedMap.ofList_entries`). Of a list that gives keys more than once, the last entry of each key counts
(`OrderedMap.find?_ofList`).
-/

universe u v

namespace BackboneLab.OrderedMap

open Std

variable {κ : Type u} {α : Type v} [Ord κ] [TransOrd κ] [LawfulEqOrd κ]

/-- Setting the value of one key leaves the others alone. -/
theorem find?_insert_of_ne (m : OrderedMap κ α) {k k' : κ} (a : α) (h : k' ≠ k) :
    (m.insert k a).find? k' = m.find? k' := by
  rw [find?_insert, if_neg fun heq => h (LawfulEqCmp.eq_of_compare heq)]

theorem find?_insert_self (m : OrderedMap κ α) (k : κ) (a : α) :
    (m.insert k a).find? k = some a := by
  rw [find?_insert, if_pos ReflCmp.compare_self]

theorem find?_insertMany_of_not_mem (m : OrderedMap κ α) {es : List (κ × α)} {k : κ}
    (h : k ∉ es.map (·.1)) : (m.insertMany es).find? k = m.find? k := by
  induction es generalizing m with
  | nil => rfl
  | cons e es ih =>
    rw [List.map_cons, List.mem_cons, not_or] at h
    exact (ih _ h.2).trans (m.find?_insert_of_ne e.2 h.1)

/-- Of a key that is given once, the collected map has the given value. -/
theorem find?_insertMany_of_mem (m : OrderedMap κ α) {es : List (κ × α)} {k : κ} {a : α}
    (hnodup : (es.map (·.1)).Nodup) (h : (k, a) ∈ es) : (m.insertMany es).find? k = some a := by
  induction es generalizing m with
  | nil => cases h
  | cons e es ih =>
    rw [List.map_cons, List.nodup_cons] at hnodup
    rcases List.mem_cons.1 h with rfl | h
    · exact (find?_insertMany_of_not_mem _ hnodup.1).trans (m.find?_insert_self k a)
    · exact ih _ hnodup.2 h

theorem isSome_find?_iff {m : OrderedMap κ α} {k : κ} : (m.find? k).isSome ↔ k ∈ m.keys := by
  rw [Option.isSome_iff_exists, keys, List.mem_map]
  simp only [find?_eq_some_iff, Prod.exists, exists_and_right, exists_eq_right]

theorem find?_ofList_of_mem {es : List (κ × α)} {k : κ} {a : α} (hnodup : (es.map (·.1)).Nodup)
    (h : (k, a) ∈ es) : (ofList es).find? k = some a :=
  find?_insertMany_of_mem _ hnodup h

theorem find?_ofList_of_not_mem {es : List (κ × α)} {k : κ} (h : k ∉ es.map (·.1)) :
    (ofList es).find? k = none :=
  find?_insertMany_of_not_mem _ h

omit [LawfulEqOrd κ] in
theorem keys_nodup (m : OrderedMap κ α) : m.keys.Nodup := by
  refine List.pairwise_map.2 (m.ordered.imp fun {x y} hlt heq => ?_)
  rw [heq, (ReflCmp.compare_self : compare y.1 y.1 = .eq)] at hlt
  cases hlt

/-- A map is collected again from its own entries. -/
theorem ofList_entries (m : OrderedMap κ α) : ofList m.entries = m := by
  refine ext_find? fun k => ?_
  cases h : m.find? k with
  | some a => exact find?_ofList_of_mem m.keys_nodup (find?_eq_some_iff.1 h)
  | none =>
    refine find?_ofList_of_not_mem fun hk => ?_
    obtain ⟨⟨k', a⟩, he, rfl⟩ := List.mem_map.1 hk
    rw [find?_eq_some_iff.2 he] at h
    cases h

/-- What is found in a collected map was given. -/
theorem mem_of_find?_ofList {es : List (κ × α)} {k : κ} {a : α} (h : (ofList es).find? k = some a) :
    k ∈ es.map (·.1) := by
  refine Classical.byContradiction fun hk => ?_
  rw [find?_ofList_of_not_mem hk] at h
  cases h

/-- Of a list that gives no key twice, the collected map holds the entries in another order. -/
theorem entries_ofList_perm {es : List (κ × α)} (hnodup : (es.map (·.1)).Nodup) :
    (ofList es).entries.Perm es := by
  refine (List.perm_ext_iff_of_nodup (.of_map _ (ofList es).keys_nodup) (.of_map _ hnodup)).2 ?_
  rintro ⟨k, a⟩
  rw [← find?_eq_some_iff]
  refine ⟨fun h => ?_, find?_ofList_of_mem hnodup⟩
  obtain ⟨⟨k', b⟩, he, rfl⟩ := List.mem_map.1 (mem_of_find?_ofList h)
  rw [find?_ofList_of_mem hnodup he] at h
  cases h
  exact he

/-- Of a list that gives no key twice, the order is of no effect. -/
theorem ofList_perm {es es' : List (κ × α)} (h : es.Perm es') (hnodup : (es.map (·.1)).Nodup) :
    ofList es = ofList es' := by
  have hnodup' : (es'.map (·.1)).Nodup := (h.map _).nodup_iff.1 hnodup
  refine ext (entries_eq_of_mem_iff (ofList es).ordered (ofList es').ordered fun e => ?_)
  rw [(entries_ofList_perm hnodup).mem_iff, (entries_ofList_perm hnodup').mem_iff, h.mem_iff]

/-- Collecting some of the entries of a map again leaves the others out. -/
theorem find?_ofList_filter (m : OrderedMap κ α) (keep : κ → Bool) (k : κ) :
    (ofList (m.entries.filter fun e => keep e.1)).find? k = if keep k then m.find? k else none := by
  have hnodup : ((m.entries.filter fun e => keep e.1).map (·.1)).Nodup :=
    m.keys_nodup.sublist (List.filter_sublist.map _)
  have hmem : ∀ a, (k, a) ∈ m.entries.filter (fun e => keep e.1) ↔ m.find? k = some a ∧ keep k := by
    intro a
    rw [List.mem_filter, find?_eq_some_iff]
  refine Option.ext fun a => ?_
  rw [find?_eq_some_iff, (entries_ofList_perm hnodup).mem_iff, hmem]
  cases keep k <;> simp

/-- Collecting one entry more sets the value of its key. -/
theorem ofList_concat (es : List (κ × α)) (e : κ × α) :
    ofList (es ++ [e]) = (ofList es).insert e.1 e.2 := by
  rw [ofList, insertMany, List.foldl_append]
  rfl

/-- Of several entries with one key, the collected map has the last one. -/
theorem find?_ofList [DecidableEq κ] (es : List (κ × α)) (k : κ) :
    (ofList es).find? k = (es.filter (·.1 = k)).getLast?.map (·.2) := by
  induction es using List.reverseRecOn with
  | nil => rfl
  | append_singleton es e ih =>
    rw [ofList_concat, List.filter_append]
    by_cases hk : e.1 = k
    · subst hk
      simp [find?_insert_self]
    · rw [find?_insert_of_ne _ _ (Ne.symm hk), ih]
      simp [hk]

omit [TransOrd κ] [LawfulEqOrd κ] in
/-- Changing the values changes what is found, but not where. -/
theorem find?_mapValues {β : Type v} (f : α → β) (m : OrderedMap κ α) (k : κ) :
    (m.mapValues f).find? k = (m.find? k).map f := by
  have hentries : ∀ es : List (κ × α), findEntry k (es.map fun e => (e.1, f e.2)) =
      (findEntry k es).map f := by
    intro es
    induction es with
    | nil => rfl
    | cons e es ih =>
      rw [List.map_cons, findEntry, findEntry, ih]
      split <;> rfl
  exact hentries m.entries

theorem size_ofList {es : List (κ × α)} (hnodup : (es.map (·.1)).Nodup) :
    (ofList es).size = es.length :=
  (entries_ofList_perm hnodup).length_eq

end BackboneLab.OrderedMap
