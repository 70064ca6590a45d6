/-!
# Ordered maps

A finite map from keys to values whose entries are listed in strictly increasing order of their keys.
The order of the entries is part of the value, so two maps that answer every look-up alike are equal,
and everything that is written from a map is written in one order. The main statements are
`OrderedMap.find?_insert`, which says what an insertion does to every look-up, and `OrderedMap.ext_find?`,
which says that the look-ups determine the map.
-/

universe u v w

namespace BackboneLab

open Std

section Entries

variable {κ : Type u} {α : Type v} [Ord κ]

/-- Puts an entry into a list of entries at its place, in front of the first larger key. An entry
with an equal key is replaced. -/
def insertEntry (k : κ) (a : α) : List (κ × α) → List (κ × α)
  | [] => [(k, a)]
  | e :: es =>
    match compare k e.1 with
    | .lt => (k, a) :: e :: es
    | .eq => (k, a) :: es
    | .gt => e :: insertEntry k a es

/-- The value of the first entry whose key is equal to the given one. -/
def findEntry (k : κ) : List (κ × α) → Option α
  | [] => none
  | e :: es => if compare k e.1 = .eq then some e.2 else findEntry k es

theorem mem_of_mem_insertEntry {k : κ} {a : α} {x : κ × α} {es : List (κ × α)}
    (h : x ∈ insertEntry k a es) : x = (k, a) ∨ x ∈ es := by
  induction es with
  | nil => exact .inl (List.mem_singleton.1 h)
  | cons e es ih =>
    rw [insertEntry] at h
    split at h
    · rcases List.mem_cons.1 h with h | h
      · exact .inl h
      · exact .inr h
    · rcases List.mem_cons.1 h with h | h
      · exact .inl h
      · exact .inr (List.mem_cons_of_mem _ h)
    · rcases List.mem_cons.1 h with h | h
      · exact .inr (h ▸ List.mem_cons_self)
      · rcases ih h with h | h
        · exact .inl h
        · exact .inr (List.mem_cons_of_mem _ h)

/-- Insertion keeps the entries in strictly increasing order of their keys. -/
theorem pairwise_insertEntry [TransOrd κ] [LawfulEqOrd κ] {k : κ} {a : α} {es : List (κ × α)}
    (h : es.Pairwise fun x y => compare x.1 y.1 = .lt) :
    (insertEntry k a es).Pairwise fun x y => compare x.1 y.1 = .lt := by
  induction es with
  | nil => exact List.pairwise_singleton _ _
  | cons e es ih =>
    have he := List.pairwise_cons.1 h
    rw [insertEntry]
    split
    next hlt =>
      refine List.pairwise_cons.2 ⟨fun y hy => ?_, h⟩
      rcases List.mem_cons.1 hy with rfl | hy
      · exact hlt
      · exact TransCmp.lt_trans hlt (he.1 y hy)
    next heq =>
      have hk : k = e.1 := LawfulEqCmp.eq_of_compare heq
      exact List.pairwise_cons.2 ⟨fun y hy => hk ▸ he.1 y hy, he.2⟩
    next hgt =>
      refine List.pairwise_cons.2 ⟨fun y hy => ?_, ih he.2⟩
      rcases mem_of_mem_insertEntry hy with rfl | hy
      · exact OrientedCmp.lt_of_gt hgt
      · exact he.1 y hy

/-- What an insertion does to every look-up. -/
theorem findEntry_insertEntry [TransOrd κ] [LawfulEqOrd κ] (k k' : κ) (a : α)
    (es : List (κ × α)) :
    findEntry k' (insertEntry k a es) = if compare k' k = .eq then some a else findEntry k' es := by
  induction es with
  | nil => rfl
  | cons e es ih =>
    rw [insertEntry]
    split
    · simp only [findEntry]
    next heq =>
      have hk : k = e.1 := LawfulEqCmp.eq_of_compare heq
      simp only [findEntry, ← hk]
      split <;> rfl
    next hgt =>
      simp only [findEntry, ih]
      split
      next h =>
        have hk : k' = e.1 := LawfulEqCmp.eq_of_compare h
        have : compare k' k ≠ .eq := fun h' => by
          have h'' : k' = k := LawfulEqCmp.eq_of_compare h'
          rw [← h'', hk, (ReflCmp.compare_self : compare e.1 e.1 = .eq)] at hgt
          cases hgt
        rw [if_neg this]
      · rfl

theorem findEntry_eq_some_iff [TransOrd κ] [LawfulEqOrd κ] {k : κ} {a : α} {es : List (κ × α)}
    (h : es.Pairwise fun x y => compare x.1 y.1 = .lt) :
    findEntry k es = some a ↔ (k, a) ∈ es := by
  induction es with
  | nil => simp [findEntry]
  | cons e es ih =>
    have he := List.pairwise_cons.1 h
    rw [findEntry, List.mem_cons]
    split
    next heq =>
      have hk : k = e.1 := LawfulEqCmp.eq_of_compare heq
      constructor
      · intro ha
        exact .inl (Prod.ext hk (Option.some.inj ha).symm)
      · rintro (ha | ha)
        · rw [← ha]
        · have := he.1 _ ha
          rw [← hk, (ReflCmp.compare_self : compare k k = .eq)] at this
          cases this
    next hne =>
      rw [ih he.2]
      refine ⟨.inr, fun ha => ha.resolve_left fun ha => hne ?_⟩
      rw [← ha]
      exact ReflCmp.compare_self

/-- Entries in strictly increasing order of their keys are determined by which entries they are. -/
theorem entries_eq_of_mem_iff [TransOrd κ] {es fs : List (κ × α)}
    (he : es.Pairwise fun x y => compare x.1 y.1 = .lt)
    (hf : fs.Pairwise fun x y => compare x.1 y.1 = .lt) (h : ∀ x, x ∈ es ↔ x ∈ fs) : es = fs := by
  have irrefl : ∀ k : κ, compare k k ≠ .lt := fun k hk => by
    rw [(ReflCmp.compare_self : compare k k = .eq)] at hk
    cases hk
  induction es generalizing fs with
  | nil =>
    cases fs with
    | nil => rfl
    | cons f fs => exact absurd ((h f).2 List.mem_cons_self) List.not_mem_nil
  | cons e es ih =>
    cases fs with
    | nil => exact absurd ((h e).1 List.mem_cons_self) List.not_mem_nil
    | cons f fs =>
      have he' := List.pairwise_cons.1 he
      have hf' := List.pairwise_cons.1 hf
      have hef : e = f := by
        rcases List.mem_cons.1 ((h e).1 List.mem_cons_self) with hef | hmem
        · exact hef
        rcases List.mem_cons.1 ((h f).2 List.mem_cons_self) with hfe | hmem'
        · exact hfe.symm
        exact absurd (TransCmp.lt_trans (hf'.1 e hmem) (he'.1 f hmem')) (irrefl f.1)
      subst hef
      refine congrArg (e :: ·) (ih he'.2 hf'.2 fun x => ⟨fun hx => ?_, fun hx => ?_⟩)
      · rcases List.mem_cons.1 ((h x).1 (List.mem_cons_of_mem _ hx)) with rfl | hx'
        · exact absurd (he'.1 x hx) (irrefl x.1)
        · exact hx'
      · rcases List.mem_cons.1 ((h x).2 (List.mem_cons_of_mem _ hx)) with rfl | hx'
        · exact absurd (hf'.1 x hx) (irrefl x.1)
        · exact hx'

end Entries

/-- A finite map whose entries are listed in strictly increasing order of their keys. -/
structure OrderedMap (κ : Type u) (α : Type v) [Ord κ] where
  /-- The entries, in the order of their keys. -/
  entries : List (κ × α)
  /-- No key is listed twice, and smaller keys come first. -/
  ordered : entries.Pairwise fun x y => compare x.1 y.1 = .lt

namespace OrderedMap

variable {κ : Type u} {α : Type v} {β : Type w} [Ord κ]

@[ext] theorem ext {m n : OrderedMap κ α} (h : m.entries = n.entries) : m = n := by
  cases m; cases n; cases h; rfl

/-- The map without any entry. -/
def empty : OrderedMap κ α := ⟨[], .nil⟩

instance : Inhabited (OrderedMap κ α) := ⟨empty⟩

instance [DecidableEq κ] [DecidableEq α] : DecidableEq (OrderedMap κ α) := fun m n =>
  decidable_of_iff (m.entries = n.entries) ⟨ext, fun h => h ▸ rfl⟩

/-- The value of a key. -/
def find? (m : OrderedMap κ α) (k : κ) : Option α := findEntry k m.entries

/-- The keys in increasing order. -/
def keys (m : OrderedMap κ α) : List κ := m.entries.map (·.1)

/-- The values in the order of their keys. -/
def values (m : OrderedMap κ α) : List α := m.entries.map (·.2)

/-- The number of keys. -/
def size (m : OrderedMap κ α) : Nat := m.entries.length

/-- Whether there is no key. -/
def isEmpty (m : OrderedMap κ α) : Bool := m.entries.isEmpty

/-- Changes every value and keeps the keys. -/
def mapValues (f : α → β) (m : OrderedMap κ α) : OrderedMap κ β where
  entries := m.entries.map fun e => (e.1, f e.2)
  ordered := List.pairwise_map.2 m.ordered

section Lawful

variable [TransOrd κ] [LawfulEqOrd κ]

/-- Sets the value of a key, replacing an earlier one. -/
def insert (m : OrderedMap κ α) (k : κ) (a : α) : OrderedMap κ α where
  entries := insertEntry k a m.entries
  ordered := pairwise_insertEntry m.ordered

/-- Sets the values of a list of entries one after the other: the last entry of a key counts. -/
def insertMany (m : OrderedMap κ α) (es : List (κ × α)) : OrderedMap κ α :=
  es.foldl (fun m e => m.insert e.1 e.2) m

/-- The map of a list of entries, of which the last one of a key counts. -/
def ofList (es : List (κ × α)) : OrderedMap κ α := empty.insertMany es

omit [TransOrd κ] [LawfulEqOrd κ] in
@[simp] theorem find?_empty (k : κ) : (empty : OrderedMap κ α).find? k = none := rfl

theorem find?_insert (m : OrderedMap κ α) (k k' : κ) (a : α) :
    (m.insert k a).find? k' = if compare k' k = .eq then some a else m.find? k' :=
  findEntry_insertEntry k k' a m.entries

theorem find?_eq_some_iff {m : OrderedMap κ α} {k : κ} {a : α} :
    m.find? k = some a ↔ (k, a) ∈ m.entries :=
  findEntry_eq_some_iff m.ordered

/-- The look-ups determine the map. -/
theorem ext_find? {m n : OrderedMap κ α} (h : ∀ k, m.find? k = n.find? k) : m = n :=
  ext (entries_eq_of_mem_iff m.ordered n.ordered fun x => by
    rw [← find?_eq_some_iff (m := m) (k := x.1) (a := x.2), h, find?_eq_some_iff])

end Lawful

end OrderedMap

end BackboneLab
