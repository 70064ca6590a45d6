import BackboneLab.Experiment.StopFlag
import Mathlib.Data.List.InsertIdx
import Mathlib.Data.List.Nodup
import Mathlib.Logic.Relation

/-!
# Families of stop flags

A row of stop flags changes as flags are made, copied, stopped and taken away, and with it the positions of
the others. A `FlagGenealogy` follows the same actions without any cells: it numbers the flags in the order
in which they are made, and keeps which of them were copied and stopped. Flags are related if copies
connect them (`FlagGenealogy.Related`), whether or not the flags between them are still in the row.

What carries every proof is that the cells can be told from the numbers (`StopFlags.Linked`): relatives, and
only they, have one cell. It is kept by every action (`Linked.perform`) and hence by every run of them
(`Linked.performAll`). The main statement is `flags_shared_by_families`.
-/

namespace BackboneLab

/-- A way to change a row of stop flags. -/
inductive FlagAction
  /-- Makes a flag with a cell of its own. -/
  | fresh
  | copy (k : Nat)
  | stop (k : Nat)
  /-- Takes a flag away, unless it is the last one. -/
  | drop (k : Nat)
  /-- Takes a flag away, even if it is the last one. -/
  | discard (k : Nat)
deriving DecidableEq

/-- Carries out one action. -/
def StopFlags.perform (s : StopFlags) : FlagAction → StopFlags
  | .fresh => s.fresh
  | .copy k => s.copy k
  | .stop k => s.stop k
  | .drop k => s.drop k
  | .discard k => ⟨s.cells, s.flags.eraseIdx k⟩

/-- Carries out one action after the other. -/
def StopFlags.performAll (s : StopFlags) (actions : List FlagAction) : StopFlags :=
  actions.foldl perform s

/-! ## Genealogies -/

/-- The flags that were ever made, by numbers in the order in which they were made. -/
structure FlagGenealogy where
  /-- How many flags were made. -/
  made : Nat
  /-- The numbers of the flags in the row. -/
  row : List Nat
  /-- The flags that were made of others, each behind the one it is a copy of. -/
  copies : List (Nat × Nat)
  /-- The flags that were stopped, in order. -/
  stops : List Nat
deriving DecidableEq

namespace FlagGenealogy

/-- A single flag that was not stopped. -/
def single : FlagGenealogy := ⟨1, [0], [], []⟩

/-- Appends a flag, which is a copy if a parent is given. -/
def bear (g : FlagGenealogy) (parent : Option Nat) : FlagGenealogy where
  made := g.made + 1
  row := g.row ++ [g.made]
  copies := g.copies ++ (parent.map (·, g.made)).toList
  stops := g.stops

/-- Takes the flag at a position away. -/
def lose (g : FlagGenealogy) (k : Nat) : FlagGenealogy := { g with row := g.row.eraseIdx k }

/-- What is known after one action more. -/
def perform (g : FlagGenealogy) : FlagAction → FlagGenealogy
  | .fresh => g.bear none
  | .copy k =>
    match g.row[k]? with
    | some parent => g.bear (some parent)
    | none => g
  | .stop k => { g with stops := g.stops ++ g.row[k]?.toList }
  | .drop k => if 1 < g.row.length then g.lose k else g
  | .discard k => g.lose k

/-- What is known after some actions more. -/
def performAll (g : FlagGenealogy) (actions : List FlagAction) : FlagGenealogy :=
  actions.foldl perform g

/-- Copies connect the two flags, in whichever direction they were made. -/
def Related (g : FlagGenealogy) : Nat → Nat → Prop :=
  Relation.EqvGen fun parent child => (parent, child) ∈ g.copies

theorem Related.mono {g g' : FlagGenealogy} {m n : Nat} (h : g.Related m n)
    (hcopies : g.copies ⊆ g'.copies) : g'.Related m n :=
  Relation.EqvGen.mono (fun _ _ hcopy => hcopies hcopy) m n h

/-- Whatever is one for a flag and its copies is one for all relatives. -/
theorem Related.eq_of_copies {α : Type} {g : FlagGenealogy} {f : Nat → α} {m n : Nat}
    (h : g.Related m n) (hf : ∀ p ∈ g.copies, f p.1 = f p.2) : f m = f n := by
  induction h with
  | rel parent child hcopy => exact hf _ hcopy
  | refl => rfl
  | symm _ _ _ ih => exact ih.symm
  | trans _ _ _ _ _ ih₁ ih₂ => exact ih₁.trans ih₂

/-- The only copy that comes with a flag is the one that makes it. -/
theorem mem_copies_bear {g : FlagGenealogy} {parent : Option Nat} {p : Nat × Nat}
    (hp : p ∈ (g.bear parent).copies) : p ∈ g.copies ∨ p.1 ∈ parent ∧ p.2 = g.made := by
  rcases List.mem_append.1 hp with hp | hp
  · exact .inl hp
  · obtain ⟨q, hq, rfl⟩ := Option.map_eq_some_iff.1 (Option.mem_toList.1 hp)
    exact .inr ⟨hq, rfl⟩

/-- A copy is related to all relatives of its parent. -/
theorem Related.bear {g : FlagGenealogy} {m parent : Nat} (h : g.Related m parent) :
    (g.bear (some parent)).Related m g.made := by
  have hcopy : (parent, g.made) ∈ (g.bear (some parent)).copies := by simp [FlagGenealogy.bear]
  exact .trans _ _ _ (h.mono (List.subset_append_left ..)) (.rel _ _ hcopy)

end FlagGenealogy

/-! ## The cells behind the numbers -/

namespace StopFlags

/-- The cells of a row of flags, given the cell of every flag that was ever made. -/
structure Linked (s : StopFlags) (g : FlagGenealogy) (cell : Nat → Nat) : Prop where
  flags : s.flags = g.row.map cell
  nodup : g.row.Nodup
  row_lt : ∀ n ∈ g.row, n < g.made
  stops_lt : ∀ n ∈ g.stops, n < g.made
  copies_lt : ∀ p ∈ g.copies, p.1 < g.made ∧ p.2 < g.made
  cell_lt : ∀ n < g.made, cell n < s.cells.length
  /-- A copy has the cell of its parent. -/
  copied : ∀ p ∈ g.copies, cell p.1 = cell p.2
  /-- No cell is shared without copies. -/
  related : ∀ m < g.made, ∀ n < g.made, cell m = cell n → g.Related m n
  isSet_iff : ∀ i, s.isSet i = true ↔ ∃ n ∈ g.stops, cell n = i

/-- What more actions leave as it is: the cells of all flags that were made before, and that some of
them were stopped. -/
structure Grown (g : FlagGenealogy) (cell : Nat → Nat) (g' : FlagGenealogy) (cell' : Nat → Nat) :
    Prop where
  made_le : g.made ≤ g'.made
  stops : g.stops <+: g'.stops
  cell_eq : ∀ n < g.made, cell' n = cell n

theorem Grown.refl (g : FlagGenealogy) (cell : Nat → Nat) : Grown g cell g cell :=
  ⟨Nat.le_refl _, List.prefix_rfl, fun _ _ => rfl⟩

theorem Grown.trans {g g' g'' : FlagGenealogy} {cell cell' cell'' : Nat → Nat}
    (h : Grown g cell g' cell') (h' : Grown g' cell' g'' cell'') : Grown g cell g'' cell'' where
  made_le := Nat.le_trans h.made_le h'.made_le
  stops := h.stops.trans h'.stops
  cell_eq n hn := (h'.cell_eq n (Nat.lt_of_lt_of_le hn h.made_le)).trans (h.cell_eq n hn)

/-- The number of the flag that is appended was free. -/
theorem Grown.bear (g : FlagGenealogy) (cell : Nat → Nat) (parent : Option Nat) (c : Nat) :
    Grown g cell (g.bear parent) (Function.update cell g.made c) where
  made_le := Nat.le_succ _
  stops := List.prefix_rfl
  cell_eq _ hn := Function.update_of_ne (Nat.ne_of_lt hn) c cell

theorem Grown.lose (g : FlagGenealogy) (cell : Nat → Nat) (k : Nat) : Grown g cell (g.lose k) cell :=
  ⟨Nat.le_refl _, List.prefix_rfl, fun _ _ => rfl⟩

theorem linked_single : Linked single .single fun _ => 0 where
  flags := rfl
  nodup := List.nodup_singleton 0
  row_lt n hn := by
    obtain rfl := List.mem_singleton.1 hn
    exact Nat.one_pos
  stops_lt := nofun
  copies_lt := nofun
  cell_lt _ _ := Nat.one_pos
  copied := nofun
  related m hm n hn _ := by
    obtain rfl : m = 0 := Nat.lt_one_iff.1 hm
    obtain rfl : n = 0 := Nat.lt_one_iff.1 hn
    exact .refl 0
  isSet_iff i := by cases i <;> simp [isSet, single, FlagGenealogy.single]

/-- A cell that is appended is not set, like one that does not exist. -/
theorem isSet_fresh (s : StopFlags) (i : Nat) : s.fresh.isSet i = s.isSet i := by
  simp only [isSet, fresh, List.getD_eq_getElem?_getD, List.getElem?_append]
  split
  next => rfl
  next hi =>
    rw [List.getElem?_eq_none (Nat.le_of_not_lt hi)]
    cases i - s.cells.length <;> rfl

/-- Stopping a flag sets its cell and no other. -/
theorem isSet_stop {s : StopFlags} {k c : Nat} (hk : s.flags[k]? = some c) (hc : c < s.cells.length)
    (i : Nat) : (s.stop k).isSet i = true ↔ s.isSet i = true ∨ c = i := by
  rw [stop, hk]
  simp only [isSet, List.getD_eq_getElem?_getD, List.getElem?_set]
  by_cases hi : c = i
  · simp [hi, hi ▸ hc]
  · simp [hi]

namespace Linked

variable {s : StopFlags} {g : FlagGenealogy} {cell : Nat → Nat}

/-- Relatives, and only they, have one cell. -/
theorem related_iff (h : Linked s g cell) {m n : Nat} (hm : m < g.made) (hn : n < g.made) :
    g.Related m n ↔ cell m = cell n :=
  ⟨fun hrelated => hrelated.eq_of_copies h.copied, h.related m hm n hn⟩

theorem flags_getElem? (h : Linked s g cell) {k n : Nat} (hk : g.row[k]? = some n) :
    s.flags[k]? = some (cell n) := by
  rw [h.flags, List.getElem?_map, hk, Option.map_some]

theorem flags_getElem?_none (h : Linked s g cell) {k : Nat} (hk : g.row[k]? = none) :
    s.flags[k]? = none := by
  rw [h.flags, List.getElem?_map, hk, Option.map_none]

theorem lt_of_getElem? (h : Linked s g cell) {k n : Nat} (hk : g.row[k]? = some n) : n < g.made :=
  h.row_lt n (List.mem_of_getElem? hk)

theorem length_row (h : Linked s g cell) : g.row.length = s.size := by
  rw [size, h.flags, List.length_map]

/-- A flag is set just if a flag with the same cell was stopped. -/
theorem isStopped_iff (h : Linked s g cell) {k n : Nat} (hk : g.row[k]? = some n) :
    s.isStopped k = true ↔ ∃ m ∈ g.stops, cell m = cell n := by
  rw [isStopped, h.flags_getElem? hk]
  exact h.isSet_iff (cell n)

/-- A flag is appended. Its cell is that of its parent, or is new. -/
theorem bear (h : Linked s g cell) {s' : StopFlags} {c : Nat} {parent : Option Nat}
    (hflags : s'.flags = s.flags ++ [c]) (hcells : s.cells.length ≤ s'.cells.length)
    (hc : c < s'.cells.length) (hset : ∀ i, s'.isSet i = s.isSet i)
    (hparent : ∀ p ∈ parent, p < g.made ∧ cell p = c)
    (hrelated : ∀ m < g.made, cell m = c → (g.bear parent).Related m g.made) :
    Linked s' (g.bear parent) (Function.update cell g.made c) := by
  have hold : ∀ n < g.made, Function.update cell g.made c n = cell n :=
    (Grown.bear g cell parent c).cell_eq
  have hnew : Function.update cell g.made c g.made = c := Function.update_self g.made c cell
  constructor
  case flags =>
    have hrow : g.row.map (Function.update cell g.made c) = g.row.map cell :=
      List.map_congr_left fun n hn => hold n (h.row_lt n hn)
    rw [hflags, h.flags, FlagGenealogy.bear, List.map_append, hrow, List.map_singleton, hnew]
  case nodup =>
    have hfree : g.made ∉ g.row := fun hmem => Nat.lt_irrefl _ (h.row_lt _ hmem)
    rw [FlagGenealogy.bear, ← List.concat_eq_append]
    exact h.nodup.concat hfree
  case row_lt =>
    intro n hn
    rcases List.mem_append.1 hn with hn | hn
    · exact Nat.lt_succ_of_lt (h.row_lt n hn)
    · exact List.mem_singleton.1 hn ▸ Nat.lt_succ_self _
  case stops_lt =>
    intro n hn
    exact Nat.lt_succ_of_lt (h.stops_lt n hn)
  case copies_lt =>
    intro p hp
    show p.1 < g.made + 1 ∧ p.2 < g.made + 1
    rcases FlagGenealogy.mem_copies_bear hp with hp | ⟨hp, hchild⟩
    · have := h.copies_lt p hp
      omega
    · have := (hparent _ hp).1
      omega
  case cell_lt =>
    intro n hn
    rcases Nat.lt_succ_iff_lt_or_eq.1 hn with hn | rfl
    · rw [hold n hn]
      exact Nat.lt_of_lt_of_le (h.cell_lt n hn) hcells
    · rwa [hnew]
  case copied =>
    intro p hp
    rcases FlagGenealogy.mem_copies_bear hp with hp | ⟨hp, hchild⟩
    · rw [hold _ (h.copies_lt p hp).1, hold _ (h.copies_lt p hp).2, h.copied p hp]
    · rw [hchild, hnew, hold _ (hparent _ hp).1, (hparent _ hp).2]
  case related =>
    -- old flags share cells as before, and the new one shares its cell with the relatives of its parent
    intro m hm n hn heq
    rcases Nat.lt_succ_iff_lt_or_eq.1 hm with hm | rfl <;>
      rcases Nat.lt_succ_iff_lt_or_eq.1 hn with hn | rfl
    · rw [hold m hm, hold n hn] at heq
      exact (h.related m hm n hn heq).mono (List.subset_append_left ..)
    · rw [hold m hm, hnew] at heq
      exact hrelated m hm heq
    · rw [hnew, hold n hn] at heq
      exact .symm _ _ (hrelated n hn heq.symm)
    · exact .refl _
  case isSet_iff =>
    intro i
    rw [hset, h.isSet_iff]
    exact exists_congr fun n => and_congr_right fun hn => by rw [hold n (h.stops_lt n hn)]

/-- A flag is taken away; its cell remains, and so does everything that is known of it. -/
theorem lose (h : Linked s g cell) (k : Nat) : Linked ⟨s.cells, s.flags.eraseIdx k⟩ (g.lose k) cell :=
  { h with
    flags := by rw [h.flags, FlagGenealogy.lose, List.eraseIdx_map]
    nodup := h.nodup.sublist (List.eraseIdx_sublist g.row k)
    row_lt := fun n hn => h.row_lt n (List.mem_of_mem_eraseIdx hn) }

/-- A flag is stopped. -/
theorem stop (h : Linked s g cell) {k n : Nat} (hk : g.row[k]? = some n) :
    Linked (s.stop k) { g with stops := g.stops ++ [n] } cell := by
  have hflag := h.flags_getElem? hk
  have hn := h.lt_of_getElem? hk
  have hsame : (s.stop k).flags = s.flags := by rw [StopFlags.stop, hflag]
  have hcells : (s.stop k).cells.length = s.cells.length := by
    rw [StopFlags.stop, hflag, List.length_set]
  refine { h with flags := hsame.trans h.flags, stops_lt := ?_, cell_lt := ?_, isSet_iff := ?_ }
  · intro m hm
    rcases List.mem_append.1 hm with hm | hm
    · exact h.stops_lt m hm
    · exact List.mem_singleton.1 hm ▸ hn
  · intro m hm
    exact hcells ▸ h.cell_lt m hm
  · intro i
    rw [isSet_stop hflag (h.cell_lt n hn), h.isSet_iff]
    simp only [List.mem_append, List.mem_singleton, or_and_right, exists_or, exists_eq_left]

/-- Every action keeps the cells of the flags that were made before it. -/
theorem perform (h : Linked s g cell) (a : FlagAction) :
    ∃ cell', Linked (s.perform a) (g.perform a) cell' ∧ Grown g cell (g.perform a) cell' := by
  cases a with
  | fresh =>
    have hlength : s.fresh.cells.length = s.cells.length + 1 := List.length_append
    refine ⟨_, h.bear rfl (hlength ▸ Nat.le_succ _) (hlength ▸ Nat.lt_succ_self _) s.isSet_fresh nofun
      ?_, .bear g cell none s.cells.length⟩
    intro m hm heq
    exact absurd heq (Nat.ne_of_lt (h.cell_lt m hm))
  | copy k =>
    simp only [StopFlags.perform, FlagGenealogy.perform]
    cases hk : g.row[k]? with
    | some n =>
      have hn := h.lt_of_getElem? hk
      have hcopy : s.copy k = ⟨s.cells, s.flags ++ [cell n]⟩ := by
        rw [StopFlags.copy, h.flags_getElem? hk, Option.toList_some]
      rw [hcopy]
      refine ⟨_, h.bear rfl (Nat.le_refl _) (h.cell_lt n hn) (fun _ => rfl) ?_ ?_,
        .bear g cell (some n) (cell n)⟩
      · rintro p ⟨⟩
        exact ⟨hn, rfl⟩
      · intro m hm heq
        exact (h.related m hm n hn heq).bear
    | none =>
      have hcopy : s.copy k = s := by
        rw [StopFlags.copy, h.flags_getElem?_none hk, Option.toList_none, List.append_nil]
      rw [hcopy]
      exact ⟨cell, h, .refl g cell⟩
  | stop k =>
    simp only [StopFlags.perform, FlagGenealogy.perform]
    cases hk : g.row[k]? with
    | some n => exact ⟨cell, h.stop hk, Nat.le_refl _, List.prefix_append .., fun _ _ => rfl⟩
    | none =>
      have hstop : s.stop k = s := by rw [StopFlags.stop, h.flags_getElem?_none hk]
      rw [hstop, Option.toList_none, List.append_nil]
      exact ⟨cell, h, .refl g cell⟩
  | drop k =>
    simp only [StopFlags.perform, FlagGenealogy.perform, StopFlags.drop, h.length_row]
    split
    next => exact ⟨cell, h.lose k, .lose g cell k⟩
    next => exact ⟨cell, h, .refl g cell⟩
  | discard k => exact ⟨cell, h.lose k, .lose g cell k⟩

/-- So does every run of actions. -/
theorem performAll (h : Linked s g cell) (actions : List FlagAction) :
    ∃ cell', Linked (s.performAll actions) (g.performAll actions) cell' ∧
      Grown g cell (g.performAll actions) cell' := by
  induction actions generalizing s g cell with
  | nil => exact ⟨cell, h, .refl g cell⟩
  | cons a actions ih =>
    obtain ⟨cell₁, h₁, hgrown₁⟩ := h.perform a
    obtain ⟨cell₂, h₂, hgrown₂⟩ := ih h₁
    exact ⟨cell₂, h₂, hgrown₁.trans hgrown₂⟩

end Linked

/-! ## What the flags show -/

/-- What a row of flags shows of its genealogy: every flag has a number of its own, and is set just if it
or a relative was stopped. -/
structure ShowsStops (s : StopFlags) (g : FlagGenealogy) : Prop where
  length_row : g.row.length = s.size
  nodup : g.row.Nodup
  isStopped_iff (k n : Nat) :
    g.row[k]? = some n → (s.isStopped k = true ↔ ∃ m ∈ g.stops, g.Related m n)

/-- What does not change from one row of flags to a later one. -/
structure Keeps (s : StopFlags) (g : FlagGenealogy) (s' : StopFlags) (g' : FlagGenealogy) : Prop where
  /-- Families are neither joined nor divided. -/
  related_iff (m n : Nat) : m < g.made → n < g.made → (g'.Related m n ↔ g.Related m n)
  /-- A flag that is set remains set, wherever it stands later. -/
  stays (k k' n : Nat) : g.row[k]? = some n → g'.row[k']? = some n →
    s.isStopped k = true → s'.isStopped k' = true
  /-- A flag remains as it is if all that is stopped in the meantime are strangers. -/
  unaffected : ∃ later, g'.stops = g.stops ++ later ∧
    ∀ k k' n, g.row[k]? = some n → g'.row[k']? = some n → (∀ m ∈ later, ¬ g'.Related m n) →
      s'.isStopped k' = s.isStopped k

theorem Linked.showsStops {s : StopFlags} {g : FlagGenealogy} {cell : Nat → Nat}
    (h : Linked s g cell) : ShowsStops s g where
  length_row := h.length_row
  nodup := h.nodup
  isStopped_iff k n hk := by
    rw [h.isStopped_iff hk]
    exact exists_congr fun m => and_congr_right fun hm =>
      (h.related_iff (h.stops_lt m hm) (h.lt_of_getElem? hk)).symm

theorem Grown.keeps {s s' : StopFlags} {g g' : FlagGenealogy} {cell cell' : Nat → Nat}
    (hgrown : Grown g cell g' cell') (h : Linked s g cell) (h' : Linked s' g' cell') :
    Keeps s g s' g' := by
  obtain ⟨later, hlater⟩ := hgrown.stops
  -- the flags that were stopped before, told by the later cells
  have hstops : ∀ {k n}, g.row[k]? = some n →
      (s.isStopped k = true ↔ ∃ m ∈ g.stops, cell' m = cell' n) := by
    intro k n hk
    rw [h.isStopped_iff hk, hgrown.cell_eq n (h.lt_of_getElem? hk)]
    exact exists_congr fun m => and_congr_right fun hm => by rw [hgrown.cell_eq m (h.stops_lt m hm)]
  refine ⟨?_, ?_, later, hlater.symm, ?_⟩
  · intro m n hm hn
    have hm' := Nat.lt_of_lt_of_le hm hgrown.made_le
    have hn' := Nat.lt_of_lt_of_le hn hgrown.made_le
    rw [h.related_iff hm hn, h'.related_iff hm' hn', hgrown.cell_eq m hm, hgrown.cell_eq n hn]
  · intro k k' n hk hk' hset
    obtain ⟨m, hm, heq⟩ := (hstops hk).1 hset
    exact (h'.isStopped_iff hk').2 ⟨m, hgrown.stops.subset hm, heq⟩
  · intro k k' n hk hk' hstrangers
    rw [Bool.eq_iff_iff, h'.isStopped_iff hk', hstops hk]
    refine exists_congr fun m => and_congr_left fun heq => ⟨fun hm => ?_, fun hm => hgrown.stops.subset hm⟩
    rcases List.mem_append.1 (hlater ▸ hm) with hold | hnew
    · exact hold
    · have hrelated := (h'.related_iff (h'.stops_lt m hm) (h'.lt_of_getElem? hk')).2 heq
      exact absurd hrelated (hstrangers m hnew)

/-- Whatever is done with a single flag and all that come from it, a flag is set just if it or one of its
relatives was stopped, be they in the row or not. Whatever is done then, it remains set, and only a stop
of a relative sets it. -/
theorem flags_shared_by_families (actions more : List FlagAction) :
    ShowsStops (single.performAll actions) (FlagGenealogy.single.performAll actions) ∧
      Keeps (single.performAll actions) (FlagGenealogy.single.performAll actions)
        (single.performAll (actions ++ more)) (FlagGenealogy.single.performAll (actions ++ more)) := by
  obtain ⟨cell, h, -⟩ := linked_single.performAll actions
  obtain ⟨cell', h', hgrown⟩ := h.performAll more
  have hrow : single.performAll (actions ++ more) = (single.performAll actions).performAll more :=
    List.foldl_append
  have hgenealogy : FlagGenealogy.single.performAll (actions ++ more) =
      (FlagGenealogy.single.performAll actions).performAll more := List.foldl_append
  rw [hrow, hgenealogy]
  exact ⟨h.showsStops, hgrown.keeps h h'⟩

/-- A flag that is taken away after it was stopped leaves its copies set, and theirs. -/
example : (single.performAll [.copy 0, .fresh, .stop 0, .drop 0, .copy 0]).states = [true, false, true] := by
  decide

end StopFlags

end BackboneLab
