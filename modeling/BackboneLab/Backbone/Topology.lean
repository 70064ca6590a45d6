import BackboneLab.Document.Wire
import BackboneLab.Fault
import BackboneLab.Ordered.Set

/-!
# Backbone topologies

A backbone is a set of named nodes with directed links, each with a capacity. Nodes are listed in the
order of their names; the place of a node in this list, counted from one, is its index. Links that are
given in both directions belong to one cable (`undirectedEdges`).
-/

namespace BackboneLab

open Std

/-- A directed link between two named nodes. Links are ordered by their source, then by their target. -/
structure DirectedLink where
  source : String
  target : String
deriving DecidableEq, Inhabited

namespace DirectedLink

instance : Ord DirectedLink :=
  ⟨compareLex (compareOn DirectedLink.source) (compareOn DirectedLink.target)⟩

instance : TransOrd DirectedLink :=
  inferInstanceAs (TransCmp (compareLex (compareOn source) (compareOn target)))

instance : LawfulEqOrd DirectedLink where
  eq_of_compare := fun {a b} h => by
    obtain ⟨a1, a2⟩ := a
    obtain ⟨b1, b2⟩ := b
    obtain ⟨h1, h2⟩ := Ordering.then_eq_eq.1 h
    have h1 : compare a1 b1 = .eq := h1
    have h2 : compare a2 b2 = .eq := h2
    rw [LawfulEqCmp.eq_of_compare h1, LawfulEqCmp.eq_of_compare h2]

/-- The link with its ends in order of their names, which both directions of a cable share. -/
def undirected (l : DirectedLink) : DirectedLink :=
  if l.source ≤ l.target then l else ⟨l.target, l.source⟩

end DirectedLink

/-- The cables of a list of directed links: both directions of a link make up one cable, whose ends
are in order of their names. -/
def undirectedEdges (links : List DirectedLink) : OrderedSet DirectedLink :=
  .ofList (links.map DirectedLink.undirected)

/-- The capacities of directed links. -/
abbrev CapacityMap := OrderedMap DirectedLink Float

/-- A backbone with at least one node, whose links join nodes of it. -/
structure Topology where
  /-- The names of the nodes. -/
  nodes : OrderedSet String
  /-- The directed links with their capacities. -/
  edges : CapacityMap
  /-- There is at least one node. -/
  nonempty : nodes.toList ≠ []
  /-- Every link starts at a node and ends at one. -/
  joined : ∀ l ∈ edges.keys, l.source ∈ nodes ∧ l.target ∈ nodes

namespace Topology

/-- The first end of a link that is not among the nodes, in the order of the links and the source
before the target. -/
def unknownEnd? (nodes : OrderedSet String) (links : List DirectedLink) : Option String :=
  (links.flatMap fun l => [l.source, l.target]).find? fun n => decide (n ∉ nodes)

theorem unknownEnd?_eq_none_iff {nodes : OrderedSet String} {links : List DirectedLink} :
    unknownEnd? nodes links = none ↔ ∀ l ∈ links, l.source ∈ nodes ∧ l.target ∈ nodes := by
  simp only [unknownEnd?, List.find?_eq_none, List.mem_flatMap, List.mem_cons, List.not_mem_nil,
    or_false, decide_not, Bool.not_eq_true', decide_eq_false_iff_not, Decidable.not_not]
  exact ⟨fun h l hl => ⟨h _ ⟨l, hl, .inl rfl⟩, h _ ⟨l, hl, .inr rfl⟩⟩,
    fun h n ⟨l, hl, hn⟩ => hn.elim (· ▸ (h l hl).1) (· ▸ (h l hl).2)⟩

/-- The topology of a list of node names, of which repeated ones count once, and of directed links. -/
def ofNodes (names : List String) (edges : CapacityMap) : Except Fault Topology :=
  let nodes := OrderedSet.ofList names
  if hn : nodes.toList = [] then .error .emptyTopology
  else
    match h : unknownEnd? nodes edges.keys with
    | some name => .error (.unknownNode name)
    | none => .ok ⟨nodes, edges, hn, unknownEnd?_eq_none_iff.1 h⟩

/-- The topology whose nodes are the ends of the given links. -/
def ofCapacities (edges : CapacityMap) : Except Fault Topology :=
  ofNodes (edges.keys.flatMap fun l => [l.source, l.target]) edges

/-- A directed link with its capacity, as it stands in a list of links. -/
structure ListedLink where
  link : DirectedLink
  capacity : Float
deriving DecidableEq, Inhabited

instance : Wire ListedLink where
  encode l := .list [encode l.link.source, encode l.link.target, encode l.capacity]
  decode
    | .list [a, b, c] => do return ⟨⟨← decode a, ← decode b⟩, ← decode c⟩
    | _ => none

/-- The capacities of a list of links, of which the last one between two nodes counts. -/
def capacitiesOf (links : List ListedLink) : CapacityMap :=
  .ofList (links.map fun l => (l.link, l.capacity))

/-- The topology of a JSON list of links, each written as source, target and capacity. -/
def ofJson (text : String) : Except Fault Topology :=
  match ofJson? (α := List ListedLink) text with
  | some links => ofCapacities (capacitiesOf links)
  | none => .error .invalidDocument

/-- The names of the nodes in their order. -/
def names (t : Topology) : List String := t.nodes.toList

/-- The number of nodes. -/
def size (t : Topology) : Nat := t.names.length

/-- The index of a node, counted from one. -/
def indexOf? (t : Topology) (name : String) : Option Nat := (t.nodes.place? name).map (· + 1)

/-- The cables of the backbone. -/
def cables (t : Topology) : OrderedSet DirectedLink := undirectedEdges t.edges.keys

end Topology

end BackboneLab
