import BackboneLab.Backbone.Topology

/-!
# The Abilene backbone

The research backbone with eleven nodes and fourteen cables of ten gigabit per second.
-/

namespace BackboneLab.Abilene

/-- The capacity of every link in bits per second. -/
def linkCapacity : Float := 10e9

/-- The cables, from the node with the smaller name. -/
def cableEnds : List (String × String) :=
  [("ATLA", "HSTN"), ("ATLA", "IPLS"), ("ATLA", "WASH"), ("CHIN", "IPLS"), ("CHIN", "NYCM"),
    ("DNVR", "KSCY"), ("DNVR", "SNVA"), ("DNVR", "STTL"), ("HSTN", "KSCY"), ("HSTN", "LOSA"),
    ("IPLS", "KSCY"), ("LOSA", "SNVA"), ("NYCM", "WASH"), ("SNVA", "STTL")]

/-- Both directions of every cable. -/
def links : List DirectedLink :=
  cableEnds.flatMap fun e => [⟨e.1, e.2⟩, ⟨e.2, e.1⟩]

/-- The capacities of all links. -/
def capacities : CapacityMap := .ofList (links.map fun l => (l, linkCapacity))

/-- The names of the nodes. -/
def nodes : OrderedSet String := .ofList (links.flatMap fun l => [l.source, l.target])

/-- The backbone. -/
def topology : Topology where
  nodes := nodes
  edges := capacities
  nonempty := by decide +kernel
  joined := by decide +kernel

end BackboneLab.Abilene
