import BackboneLab.Emulation.Receivers
import BackboneLab.Proofs.Backbone.AddressPlan
import BackboneLab.Proofs.Emulation.Layout
import BackboneLab.Proofs.Ordered.Map

/-!
# The hosts of an emulated network

A receiver tells the sources of its traffic by the third octet of their addresses. In every network of
the lab no two hosts share this octet (`IsLaidOut.distinctHosts`), so no two of them share an address or
a port either.
-/

namespace BackboneLab.EmulatedNetwork

/-- The hosts of a network can be told apart by their names, and by the third octets of their
addresses. -/
structure HasDistinctHosts (n : EmulatedNetwork) : Prop where
  name_nodup : (n.hosts.map Host.name).Nodup
  third_nodup : (n.hosts.map (·.address.third)).Nodup

/-! ## Ports -/

namespace HasDistinctHosts

variable {n : EmulatedNetwork} {a b : Ipv4}

/-- Hosts with the same port are the same. -/
theorem portFor_inj (h : n.HasDistinctHosts) (ha : a ∈ n.hostAddrs) (hb : b ∈ n.hostAddrs)
    (hport : Generator.portFor a = Generator.portFor b) : a = b := by
  obtain ⟨x, hx, rfl⟩ := List.mem_map.1 ha
  obtain ⟨y, hy, rfl⟩ := List.mem_map.1 hb
  have hthird : x.address.third = y.address.third :=
    UInt8.toNat_inj.1 (Nat.add_left_cancel hport)
  rw [List.inj_on_of_nodup_map h.third_nodup hx hy hthird]

theorem hostAddrs_nodup (h : n.HasDistinctHosts) : n.hostAddrs.Nodup := by
  have hthirds : n.hosts.map (·.address.third) = n.hostAddrs.map Ipv4.third := (List.map_map ..).symm
  exact .of_map _ (hthirds ▸ h.third_nodup)

end HasDistinctHosts

/-- A host that is found by its address has one of the addresses of the network. -/
theorem mem_hostAddrs {n : EmulatedNetwork} {a : Ipv4} {name : String}
    (h : n.hostNames.find? a = some name) : a ∈ n.hostAddrs := by
  have hmem := OrderedMap.mem_of_find?_ofList h
  rwa [List.map_map] at hmem

/-! ## The networks of the lab -/

theorem hostName_nodup {nodes : List NodeAddresses} (h : (nodes.map NodeAddresses.index).Nodup) :
    (nodes.map fun n => hostName n.index).Nodup := by
  have hnames : (nodes.map fun n => hostName n.index) =
      (nodes.map NodeAddresses.index).map hostName := by
    rw [List.map_map]
    rfl
  rw [hnames]
  exact h.map fun _ _ heq => decimal_injective ((String.append_right_inj _).1 heq)

theorem ofTopology_distinctHosts {t : Topology} {s : Settings} {confDir : Path} {n : EmulatedNetwork}
    (h : ofTopology t s confDir = .ok n) : n.HasDistinctHosts := by
  obtain ⟨p, hp, rfl⟩ := ofTopology_eq_ok h
  have hlists := AddressPlan.ofNames_lists hp
  constructor
  case name_nodup =>
    have hnames : (p.nodes.map hostOf).map Host.name = p.nodes.map fun n => hostName n.index :=
      List.map_map ..
    exact hnames ▸ hostName_nodup hlists.index_nodup
  case third_nodup =>
    have hthirds : (p.nodes.map hostOf).map (·.address.third) =
        p.nodes.map NodeAddresses.hostOctet := List.map_map ..
    exact hthirds ▸ hlists.hostOctet_nodup

/-- The hosts of the tutorial are always the same. -/
theorem tutorial_hosts {s : Settings} {confDir : Path} {n : EmulatedNetwork}
    (h : tutorial s confDir = .ok n) :
    n.hosts.map (fun h => (h.name, h.address.third)) =
      [("h1", 1), ("h10", 10), ("h2", 2), ("h3", 3), ("h4", 4), ("h5", 5)] := by
  obtain ⟨p, hp, rfl⟩ := tutorial_eq_ok h
  have hhosts : (AddressPlan.ofNames tutorialNames tutorialReserved).map (fun p =>
      (p.nodes.flatMap tutorialHosts).map fun h => (h.name, h.address.third)) =
      .ok [("h1", 1), ("h10", 10), ("h2", 2), ("h3", 3), ("h4", 4), ("h5", 5)] := by
    decide +kernel
  rw [hp] at hhosts
  exact Except.ok.inj hhosts

theorem tutorial_distinctHosts {s : Settings} {confDir : Path} {n : EmulatedNetwork}
    (h : tutorial s confDir = .ok n) : n.HasDistinctHosts := by
  have hhosts := tutorial_hosts h
  constructor
  case name_nodup =>
    have hnames : n.hosts.map Host.name =
        (n.hosts.map fun h => (h.name, h.address.third)).map Prod.fst := by
      rw [List.map_map]
      rfl
    rw [hnames, hhosts]
    decide
  case third_nodup =>
    have hthirds : n.hosts.map (·.address.third) =
        (n.hosts.map fun h => (h.name, h.address.third)).map Prod.snd := by
      rw [List.map_map]
      rfl
    rw [hthirds, hhosts]
    decide

/-- The hosts of every network of the lab can be told apart. -/
theorem IsLaidOut.distinctHosts {n : EmulatedNetwork} (h : n.IsLaidOut) : n.HasDistinctHosts := by
  cases h with
  | ofTopology h => exact ofTopology_distinctHosts h
  | tutorial h => exact tutorial_distinctHosts h

end BackboneLab.EmulatedNetwork
