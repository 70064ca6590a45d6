import BackboneLab.Emulation.Tutorial
import BackboneLab.Proofs.Sequencing

/-!
# Laying out networks

A network is laid out from the address plan of a backbone (`EmulatedNetwork.ofTopology_eq_ok`), or it is
the tutorial network, which has an address plan too (`EmulatedNetwork.tutorial_eq_ok`).
`EmulatedNetwork.IsLaidOut` is what both have in common: they are the networks of the lab.
-/

namespace BackboneLab.EmulatedNetwork

/-- The network for an address plan of a backbone. -/
def ofPlan (p : AddressPlan) (t : Topology) (s : Settings) (confDir : Path) : EmulatedNetwork where
  switches := p.nodes.map fun n => switchOf n.index
  routers := p.nodes.map fun n => routerOf confDir n (interfacesOf n) (some n.peeringAddr)
  hosts := p.nodes.map hostOf
  speaker := speakerOf p.nodes s confDir
  links := p.nodes.flatMap nodeLinks ++ speakerLink s :: t.cables.toList.filterMap (cableLink? t)

/-- Networks are laid out for every backbone that has an address plan, and for no other. -/
theorem ofTopology_eq (t : Topology) (s : Settings) (confDir : Path) :
    ofTopology t s confDir = (AddressPlan.ofTopology t s.reserved).map (ofPlan · t s confDir) := by
  rw [ofTopology]
  cases AddressPlan.ofTopology t s.reserved <;> rfl

theorem ofTopology_eq_ok {t : Topology} {s : Settings} {confDir : Path} {n : EmulatedNetwork}
    (h : ofTopology t s confDir = .ok n) :
    ∃ p, AddressPlan.ofTopology t s.reserved = .ok p ∧ n = ofPlan p t s confDir := by
  rw [ofTopology_eq] at h
  exact ok_of_map h

/-- The tutorial network for an address plan of its routers. -/
def tutorialOfPlan (p : AddressPlan) (s : Settings) (confDir : Path) : EmulatedNetwork where
  switches := (List.range 6).map fun k => switchOf (k + 1)
  routers := p.nodes.map fun n => routerOf confDir n (tutorialInterfaces n) none
  hosts := p.nodes.flatMap tutorialHosts
  speaker := speakerOf p.nodes s confDir
  links := (p.nodes.zip tutorialAttachment).flatMap (fun q => tutorialNodeLinks q.1 q.2) ++
    speakerLink s :: tutorialCables.map fun c => switchLink c.1 c.2

theorem tutorial_eq (s : Settings) (confDir : Path) :
    tutorial s confDir =
      (AddressPlan.ofNames tutorialNames tutorialReserved).map (tutorialOfPlan · s confDir) := by
  rw [tutorial]
  cases AddressPlan.ofNames tutorialNames tutorialReserved <;> rfl

theorem tutorial_eq_ok {s : Settings} {confDir : Path} {n : EmulatedNetwork}
    (h : tutorial s confDir = .ok n) :
    ∃ p, AddressPlan.ofNames tutorialNames tutorialReserved = .ok p ∧ n = tutorialOfPlan p s confDir := by
  rw [tutorial_eq] at h
  exact ok_of_map h

/-- The networks that the lab lays out: those of backbones, and the tutorial. -/
inductive IsLaidOut : EmulatedNetwork → Prop
  | ofTopology {t : Topology} {s : Settings} {confDir : Path} {n : EmulatedNetwork}
      (h : EmulatedNetwork.ofTopology t s confDir = .ok n) : IsLaidOut n
  | tutorial {s : Settings} {confDir : Path} {n : EmulatedNetwork}
      (h : EmulatedNetwork.tutorial s confDir = .ok n) : IsLaidOut n

/-- The routers and the speaker of such a network are those of the nodes of a plan, and all of them have
their configuration files in one directory. -/
theorem IsLaidOut.exists_nodes {n : EmulatedNetwork} (h : n.IsLaidOut) :
    ∃ (nodes : List NodeAddresses) (s : Settings) (confDir : Path),
      n.speaker = speakerOf nodes s confDir ∧
        ∀ r ∈ n.routers, ∃ m ∈ nodes, ∃ interfaces route, r = routerOf confDir m interfaces route := by
  cases h with
  | ofTopology h =>
    obtain ⟨p, -, rfl⟩ := ofTopology_eq_ok h
    refine ⟨p.nodes, _, _, rfl, fun r hr => ?_⟩
    obtain ⟨m, hm, rfl⟩ := List.mem_map.1 hr
    exact ⟨m, hm, _, _, rfl⟩
  | tutorial h =>
    obtain ⟨p, -, rfl⟩ := tutorial_eq_ok h
    refine ⟨p.nodes, _, _, rfl, fun r hr => ?_⟩
    obtain ⟨m, hm, rfl⟩ := List.mem_map.1 hr
    exact ⟨m, hm, _, _, rfl⟩

end BackboneLab.EmulatedNetwork
