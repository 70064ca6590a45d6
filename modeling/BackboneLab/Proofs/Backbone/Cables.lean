import BackboneLab.Proofs.Backbone.Topology
import Mathlib.Data.Finset.Card
import Mathlib.Data.String.Basic
import Mathlib.Data.Sym.Sym2

/-!
# Cables of directed links

Both directions of a link belong to one cable, so turning links round changes no cable
(`undirectedEdges_map_turn`), and a set of links makes up fewer cables than it has links exactly by the
pairs of different names that are linked in both directions (`size_undirectedEdges_add`). The main
statement is `undirectedEdges_merges`.
-/

namespace BackboneLab

open Finset

namespace DirectedLink

/-- The link in the other direction. -/
def reversed (l : DirectedLink) : DirectedLink := ⟨l.target, l.source⟩

@[simp] theorem reversed_reversed (l : DirectedLink) : l.reversed.reversed = l := rfl

theorem reversed_injective : Function.Injective reversed := fun l l' h => by
  rw [← l.reversed_reversed, h, l'.reversed_reversed]

/-- Both directions of a link belong to one cable. -/
theorem undirected_reversed (l : DirectedLink) : l.reversed.undirected = l.undirected :=
  undirected_swap l.source l.target

/-- The link in the other direction, if it is to be turned round. -/
def turn (turned : DirectedLink → Bool) (l : DirectedLink) : DirectedLink :=
  if turned l then l.reversed else l

theorem undirected_turn (turned : DirectedLink → Bool) (l : DirectedLink) :
    (l.turn turned).undirected = l.undirected := by
  rw [turn]
  split
  · exact l.undirected_reversed
  · rfl

end DirectedLink

/-! ## What makes up the same cables -/

variable {E : OrderedSet DirectedLink} {x y : String}

/-- It does not count how often a link is listed, and where. -/
theorem undirectedEdges_ofList (links : List DirectedLink) :
    undirectedEdges (OrderedSet.ofList links).toList = undirectedEdges links := by
  refine OrderedSet.ext_mem fun ⟨x, y⟩ => ?_
  rw [mem_undirectedEdges_iff, mem_undirectedEdges_iff]
  simp only [← OrderedSet.mem_iff, OrderedSet.mem_ofList]

/-- Neither does it count in which direction a link leads. -/
theorem undirectedEdges_map_turn (turned : DirectedLink → Bool) (links : List DirectedLink) :
    undirectedEdges (links.map (.turn turned)) = undirectedEdges links := by
  rw [undirectedEdges, undirectedEdges, List.map_map]
  exact congrArg _ (List.map_congr_left fun l _ => l.undirected_turn turned)

/-- Cables are their own cables, as their ends are in order. -/
theorem undirectedEdges_toList (links : List DirectedLink) :
    undirectedEdges (undirectedEdges links).toList = undirectedEdges links := by
  have hordered : ∀ c ∈ (undirectedEdges links).toList, c.undirected = c := fun ⟨x, y⟩ hc =>
    DirectedLink.undirected_of_le (mem_undirectedEdges_iff.1 hc).1
  refine OrderedSet.ext_mem fun c => ?_
  rw [undirectedEdges, OrderedSet.mem_ofList, List.map_congr_left hordered, List.map_id', OrderedSet.mem_iff]

/-! ## How many cables there are -/

/-- The pairs of different names that are linked in both directions. -/
def twoWayPairs (E : OrderedSet DirectedLink) : Finset (Sym2 String) :=
  {l ∈ E.toList.toFinset | l.source ≠ l.target ∧ l.reversed ∈ E}.image fun l => s(l.source, l.target)

theorem mem_twoWayPairs_iff : s(x, y) ∈ twoWayPairs E ↔ x ≠ y ∧ ⟨x, y⟩ ∈ E ∧ ⟨y, x⟩ ∈ E := by
  simp only [twoWayPairs, mem_image, mem_filter, List.mem_toFinset, ← OrderedSet.mem_iff]
  constructor
  · rintro ⟨⟨x', y'⟩, ⟨hlink, hne, hback⟩, hends⟩
    rcases Sym2.eq_iff.1 hends with ⟨rfl, rfl⟩ | ⟨rfl, rfl⟩
    · exact ⟨hne, hlink, hback⟩
    · exact ⟨hne.symm, hback, hlink⟩
  · rintro ⟨hne, hlink, hback⟩
    exact ⟨⟨x, y⟩, ⟨hlink, hne, hback⟩, rfl⟩

theorem OrderedSet.card_toFinset {α : Type} [DecidableEq α] [Ord α] [Std.TransOrd α] (s : OrderedSet α) :
    s.toList.toFinset.card = s.size :=
  List.toFinset_card_of_nodup s.members.keys_nodup

/-- The links of a set that lead in the order of names. -/
def forward (E : OrderedSet DirectedLink) : Finset DirectedLink :=
  {l ∈ E.toList.toFinset | l.source ≤ l.target}

/-- The links of a set that lead against the order of names. -/
def backward (E : OrderedSet DirectedLink) : Finset DirectedLink :=
  {l ∈ E.toList.toFinset | ¬ l.source ≤ l.target}

theorem mem_forward_iff : ⟨x, y⟩ ∈ forward E ↔ x ≤ y ∧ ⟨x, y⟩ ∈ E := by
  rw [forward, mem_filter, List.mem_toFinset, and_comm, OrderedSet.mem_iff]

/-- Turned round, a link that leads against the order of names leads from one name to a larger one. -/
theorem mem_image_backward_iff :
    ⟨x, y⟩ ∈ (backward E).image DirectedLink.reversed ↔ x < y ∧ ⟨y, x⟩ ∈ E := by
  have hreversed : (⟨x, y⟩ : DirectedLink) = DirectedLink.reversed ⟨y, x⟩ := rfl
  rw [hreversed, DirectedLink.reversed_injective.mem_finset_image, backward, mem_filter,
    List.mem_toFinset, String.not_le, and_comm, OrderedSet.mem_iff]

theorem toFinset_undirectedEdges (E : OrderedSet DirectedLink) :
    (undirectedEdges E.toList).toList.toFinset =
      forward E ∪ (backward E).image DirectedLink.reversed := by
  ext ⟨x, y⟩
  rw [List.mem_toFinset, ← OrderedSet.mem_iff, mem_undirectedEdges_iff, mem_union, mem_forward_iff,
    mem_image_backward_iff, ← OrderedSet.mem_iff, ← OrderedSet.mem_iff]
  constructor
  · rintro ⟨hle, hlink | hlink⟩
    · exact .inl ⟨hle, hlink⟩
    · -- a link from a name to itself leads forward, whichever way it is read
      rcases eq_or_ne x y with rfl | hne
      · exact .inl ⟨hle, hlink⟩
      · exact .inr ⟨lt_of_le_of_ne hle hne, hlink⟩
  · rintro (⟨hle, hlink⟩ | ⟨hlt, hlink⟩)
    · exact ⟨hle, .inl hlink⟩
    · exact ⟨le_of_lt hlt, .inr hlink⟩

/-- The cables that have links in both directions are those of the pairs. -/
theorem card_inter_image_backward (E : OrderedSet DirectedLink) :
    (forward E ∩ (backward E).image DirectedLink.reversed).card = (twoWayPairs E).card := by
  refine card_bij (fun c _ => s(c.source, c.target)) ?_ ?_ ?_
  · rintro ⟨x, y⟩ hc
    rw [mem_inter, mem_forward_iff, mem_image_backward_iff] at hc
    exact mem_twoWayPairs_iff.2 ⟨ne_of_lt hc.2.1, hc.1.2, hc.2.2⟩
  · rintro ⟨x, y⟩ hc ⟨x', y'⟩ hc' hends
    rw [mem_inter, mem_image_backward_iff] at hc hc'
    rcases Sym2.eq_iff.1 hends with ⟨rfl, rfl⟩ | ⟨rfl, rfl⟩
    · rfl
    · exact absurd hc.2.1 (lt_asymm hc'.2.1)
  · intro p hp
    induction p with
    | _ x y =>
    obtain ⟨hne, hlink, hback⟩ := mem_twoWayPairs_iff.1 hp
    rcases lt_or_gt_of_ne hne with hlt | hgt
    · refine ⟨⟨x, y⟩, ?_, rfl⟩
      rw [mem_inter, mem_forward_iff, mem_image_backward_iff]
      exact ⟨⟨le_of_lt hlt, hlink⟩, hlt, hback⟩
    · refine ⟨⟨y, x⟩, ?_, Sym2.eq_swap⟩
      rw [mem_inter, mem_forward_iff, mem_image_backward_iff]
      exact ⟨⟨le_of_lt hgt, hback⟩, hgt, hlink⟩

/-- Every pair that is linked in both directions makes up one cable of two links, and every other link a
cable of its own. -/
theorem size_undirectedEdges_add (E : OrderedSet DirectedLink) :
    (undirectedEdges E.toList).size + (twoWayPairs E).card = E.size := by
  have hboth := card_union_add_card_inter (forward E) ((backward E).image DirectedLink.reversed)
  have hparts : (forward E).card + (backward E).card = E.toList.toFinset.card :=
    card_filter_add_card_filter_not _
  rw [← toFinset_undirectedEdges, card_inter_image_backward,
    card_image_of_injective _ DirectedLink.reversed_injective, OrderedSet.card_toFinset] at hboth
  rw [hboth, hparts, OrderedSet.card_toFinset]

/-- The cables of a set of links. A cable joins two names, in their order, if and only if a link leads from
one of them to the other. Cables are their own cables, and turning any links round changes none of them.
There are as many of them as links, less one for every pair of different names that is linked in both
directions; so there are at most as many, and as many only if no two different names are. -/
theorem undirectedEdges_merges (E : OrderedSet DirectedLink) :
    (∀ x y, ⟨x, y⟩ ∈ undirectedEdges E.toList ↔ x ≤ y ∧ (⟨x, y⟩ ∈ E ∨ ⟨y, x⟩ ∈ E)) ∧
      undirectedEdges (undirectedEdges E.toList).toList = undirectedEdges E.toList ∧
      (∀ turned, undirectedEdges (OrderedSet.ofList (E.toList.map (.turn turned))).toList =
        undirectedEdges E.toList) ∧
      (∀ x y, s(x, y) ∈ twoWayPairs E ↔ x ≠ y ∧ ⟨x, y⟩ ∈ E ∧ ⟨y, x⟩ ∈ E) ∧
      (undirectedEdges E.toList).size + (twoWayPairs E).card = E.size ∧
      (undirectedEdges E.toList).size ≤ E.size ∧
      ((undirectedEdges E.toList).size = E.size ↔ ¬ ∃ x y, x ≠ y ∧ ⟨x, y⟩ ∈ E ∧ ⟨y, x⟩ ∈ E) := by
  have hsize := size_undirectedEdges_add E
  refine ⟨fun x y => mem_undirectedEdges_iff, undirectedEdges_toList _, fun turned => ?_,
    fun x y => mem_twoWayPairs_iff, hsize, by omega, ?_⟩
  · rw [undirectedEdges_ofList, undirectedEdges_map_turn]
  · have hnone : (undirectedEdges E.toList).size = E.size ↔ twoWayPairs E = ∅ := by
      rw [← card_eq_zero]
      omega
    rw [hnone, eq_empty_iff_forall_notMem, Sym2.forall, not_exists]
    exact forall_congr' fun x => by simp only [mem_twoWayPairs_iff, not_exists]

end BackboneLab
