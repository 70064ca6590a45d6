import BackboneLab.Emulation.Daemon
import BackboneLab.Proofs.Backbone.AddressPlan
import BackboneLab.Proofs.Emulation.Layout

/-!
# The daemons of an emulated network

Every network of the lab has routers with pairwise distinct names, none of which is that of the speaker
(`IsNamed`). So each daemon of the network is told by its router and its kind, and of the two daemons of
one router zebra comes first in the order of the start (`Daemon.Before`, `IsNamed.daemons`).
-/

namespace BackboneLab

/-- The order in which the two daemons of one router are started. Daemons of different routers may be
started in any order. -/
def Daemon.Before (d d' : Daemon) : Prop := d.router = d'.router → d.kind = .zebra ∧ d'.kind = .bgpd

namespace EmulatedNetwork

/-- Everything that runs daemons in the network has a name of its own. -/
def IsNamed (n : EmulatedNetwork) : Prop := ((n.routers ++ [n.speaker]).map Router.name).Nodup

/-- There are two daemons for every router, and two for the speaker. -/
theorem length_daemons (n : EmulatedNetwork) (q : QuaggaSettings) :
    (n.daemons q).length = 2 * (n.routers.length + 1) := by
  simp only [daemons, List.length_flatMap, List.length_cons, List.length_nil, List.map_const',
    List.sum_replicate_nat, List.length_append]
  omega

/-- The order of the start in a network, in which the two daemons of a router stand next to each other. -/
theorem IsNamed.daemons {n : EmulatedNetwork} (h : n.IsNamed) (q : QuaggaSettings) :
    (n.daemons q).Pairwise Daemon.Before := by
  rw [EmulatedNetwork.daemons, List.pairwise_flatMap]
  constructor
  · intro r _
    simp [Daemon.Before, Daemon.ofRouter]
  · refine (List.pairwise_map.1 h).imp fun {r r'} hne d hd d' hd' hrouter => absurd ?_ hne
    simp only [List.mem_cons, List.not_mem_nil, or_false] at hd hd'
    rcases hd with rfl | rfl <;> rcases hd' with rfl | rfl <;> exact hrouter

/-! ## The networks of the lab -/

/-- The name of a router is not that of the speaker: it begins with another letter. -/
theorem hostname_ne_speakerName (n : NodeAddresses) : n.hostname ≠ speakerName := by
  intro h
  have := congrArg String.toList h
  simp [NodeAddresses.hostname, speakerName] at this

theorem hostname_nodup {nodes : List NodeAddresses} (h : (nodes.map NodeAddresses.index).Nodup) :
    (nodes.map NodeAddresses.hostname).Nodup := by
  have : nodes.map NodeAddresses.hostname =
      (nodes.map NodeAddresses.index).map ("r" ++ decimal ·) := by
    rw [List.map_map]
    rfl
  rw [this]
  exact h.map fun _ _ heq => decimal_injective (String.append_right_inj _ |>.1 heq)

/-- Networks whose routers are those of the nodes of a plan. -/
theorem isNamed_of_lists {reserved : List ReservedIndex} {names : List String}
    {nodes : List NodeAddresses} (hnodes : AddressPlan.Lists reserved names nodes) {n : EmulatedNetwork}
    (hrouters : n.routers.map Router.name = nodes.map NodeAddresses.hostname)
    (hspeaker : n.speaker.name = speakerName) : n.IsNamed := by
  rw [IsNamed, List.map_append, hrouters, List.map_singleton, hspeaker]
  refine List.nodup_append.2 ⟨hostname_nodup hnodes.index_nodup, List.nodup_singleton _, ?_⟩
  intro name hname other hother
  obtain ⟨node, -, rfl⟩ := List.mem_map.1 hname
  rw [List.mem_singleton.1 hother]
  exact hostname_ne_speakerName node

theorem ofTopology_isNamed {t : Topology} {s : Settings} {confDir : Path} {n : EmulatedNetwork}
    (h : ofTopology t s confDir = .ok n) : n.IsNamed := by
  obtain ⟨p, hp, rfl⟩ := ofTopology_eq_ok h
  exact isNamed_of_lists (AddressPlan.ofNames_lists hp) (by simp [ofPlan, routerOf]) rfl

theorem tutorial_isNamed {s : Settings} {confDir : Path} {n : EmulatedNetwork}
    (h : tutorial s confDir = .ok n) : n.IsNamed := by
  obtain ⟨p, hp, rfl⟩ := tutorial_eq_ok h
  exact isNamed_of_lists (AddressPlan.ofNames_lists hp) (by simp [tutorialOfPlan, routerOf]) rfl

/-- The routers of every network of the lab are named apart. -/
theorem IsLaidOut.isNamed {n : EmulatedNetwork} (h : n.IsLaidOut) : n.IsNamed := by
  cases h with
  | ofTopology h => exact ofTopology_isNamed h
  | tutorial h => exact tutorial_isNamed h

end EmulatedNetwork

end BackboneLab
