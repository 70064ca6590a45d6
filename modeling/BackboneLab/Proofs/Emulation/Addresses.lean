import BackboneLab.Proofs.Backbone.HardwareAddress
import BackboneLab.Proofs.Emulation.Agreement
import BackboneLab.Proofs.Emulation.Parts

/-!
# The addresses of an emulated network

A node has two networks of 256 addresses: one by its address index, in which its router meets the
speaker, and one by its index, in which the router meets the host. No two nodes share either of them,
since the indices are distinct and so are the address indices, and there is nothing else in them.
`HasDistinctAddresses` collects this together with what else tells the parts of a network apart, and
`addresses_distinct` says that it holds of the network for every backbone.
-/

namespace BackboneLab

/-! ## The interfaces of a network -/

/-- Two interfaces share the network between the router and the speaker, or that between the router and
its host. -/
def NodeParts.Shares (x : NodeParts) (a b : Subnet) : Prop :=
  (a = x.routerNet ∧ b = x.peering) ∨ (a = x.gatewayNet ∧ b = x.host.addr)

namespace EmulatedNetwork

/-- The interfaces of all routers, hosts and the speaker. -/
def interfaceNets (n : EmulatedNetwork) : List Subnet :=
  n.routers.flatMap (fun r => r.interfaces.flatMap Interface.addrs) ++ n.hosts.map Host.addr ++
    n.speaker.interfaces.flatMap Interface.addrs

/-- The names of the interfaces of all routers and the speaker. -/
def interfaceNames (n : EmulatedNetwork) : List String :=
  (n.routers ++ [n.speaker]).flatMap fun r => r.interfaces.map Interface.name

/-- The hardware addresses that are set on the routers. -/
def routerMacs (n : EmulatedNetwork) : List String :=
  n.routers.flatMap fun r => r.interfaces.filterMap Interface.mac

/-- Addresses and names tell apart the parts of a network, of which these belong to its nodes. -/
structure HasDistinctAddresses (n : EmulatedNetwork) (xs : List NodeParts) : Prop where
  address_nodup : (n.interfaceNets.map Subnet.address).Nodup
  length_eq : ∀ a ∈ n.interfaceNets, a.length = 24
  /-- Only a router shares a network, with the speaker on its one side and its host on the other. -/
  same_network : ∀ a ∈ n.interfaceNets, ∀ b ∈ n.interfaceNets, a ≠ b →
    (a.network = b.network ↔ ∃ x ∈ xs, x.Shares a b ∨ x.Shares b a)
  gateway : ∀ x ∈ xs, x.host.gateway = x.gatewayNet.address
  /-- What a router does not know goes to the speaker, in the network they share. -/
  default_route : ∀ x ∈ xs, x.router.defaultRoute = some x.peering.address ∧
    x.peering.network = x.routerNet.network
  datapath_nodup : (n.switches.map Switch.datapath).Nodup
  partNames_nodup : n.partNames.Nodup
  interfaceNames_nodup : n.interfaceNames.Nodup
  routerMacs_nodup : n.routerMacs.Nodup
  routerMac : ∀ mac ∈ n.routerMacs, IsHardwareAddress mac

end EmulatedNetwork

/-! ## The networks of a node -/

/-- Two different elements of a pair are the first one and the second one. -/
theorem mem_pair_cases {α : Type} {x y a b : α} (ha : a ∈ [x, y]) (hb : b ∈ [x, y]) (hne : a ≠ b) :
    (a = x ∧ b = y) ∨ (b = x ∧ a = y) := by
  simp only [List.mem_cons, List.not_mem_nil, or_false] at ha hb
  rcases ha with rfl | rfl
  · exact .inl ⟨rfl, hb.resolve_left (Ne.symm hne)⟩
  · exact .inr ⟨hb.resolve_right (Ne.symm hne), rfl⟩

namespace NodeAddresses

/-- The interfaces in the network of the router and the speaker. -/
def speakerSide (n : NodeAddresses) : List Subnet := [n.routerNet, n.peeringNet]

/-- The interfaces in the network of the router and its host. -/
def hostSide (n : NodeAddresses) : List Subnet := [.of24 n.gateway, n.hostNet]

variable {n : NodeAddresses} {a : Subnet}

theorem network_peeringNet (n : NodeAddresses) : n.peeringNet.network = n.routerNet.network :=
  (Subnet.network_of24 _ _ _ _).trans (Subnet.network_of24 _ _ _ _).symm

theorem network_hostNet (n : NodeAddresses) : n.hostNet.network = (Subnet.of24 n.gateway).network :=
  (Subnet.network_of24 _ _ _ _).trans (Subnet.network_of24 _ _ _ _).symm

theorem network_of_mem_speakerSide (h : a ∈ n.speakerSide) : a.network = ⟨10, 0, n.peerOctet, 0⟩ := by
  simp only [speakerSide, List.mem_cons, List.not_mem_nil, or_false] at h
  rcases h with rfl | rfl
  · exact Subnet.network_of24 _ _ _ _
  · exact n.network_peeringNet.trans (Subnet.network_of24 _ _ _ _)

theorem network_of_mem_hostSide (h : a ∈ n.hostSide) : a.network = ⟨192, 168, n.hostOctet, 0⟩ := by
  simp only [hostSide, List.mem_cons, List.not_mem_nil, or_false] at h
  rcases h with rfl | rfl
  · exact Subnet.network_of24 _ _ _ _
  · exact n.network_hostNet.trans (Subnet.network_of24 _ _ _ _)

theorem length_of_mem_sides (h : a ∈ n.speakerSide ∨ a ∈ n.hostSide) : a.length = 24 := by
  simp only [speakerSide, hostSide, List.mem_cons, List.not_mem_nil, or_false] at h
  rcases h with (rfl | rfl) | (rfl | rfl)
  · rfl
  · rfl
  · rfl
  · rfl

theorem network_eq_of_shares {confDir : Path} {b : Subnet} (h : (n.parts confDir).Shares a b) :
    a.network = b.network := by
  rcases h with ⟨rfl, rfl⟩ | ⟨rfl, rfl⟩
  · exact n.network_peeringNet.symm
  · exact n.network_hostNet.symm

/-- The two sides of a node are different networks, and so are the different sides of any two nodes. -/
theorem network_ne_of_mem_sides {m : NodeAddresses} {b : Subnet} (ha : a ∈ m.speakerSide)
    (hb : b ∈ n.hostSide) : a.network ≠ b.network := by
  rw [network_of_mem_speakerSide ha, network_of_mem_hostSide hb]
  intro heq
  exact absurd (congrArg Ipv4.first heq) (by decide : (10 : UInt8) ≠ 192)

end NodeAddresses

namespace AddressPlan.Lists

variable {reserved : List ReservedIndex} {names : List String} {nodes : List NodeAddresses}
  {m n : NodeAddresses} {a b : Subnet}

/-- Interfaces towards the speaker that share a network belong to one node. -/
theorem eq_of_speakerSide (h : Lists reserved names nodes) (hm : m ∈ nodes) (hn : n ∈ nodes)
    (ha : a ∈ m.speakerSide) (hb : b ∈ n.speakerSide) (heq : a.network = b.network) : m = n := by
  rw [NodeAddresses.network_of_mem_speakerSide ha, NodeAddresses.network_of_mem_speakerSide hb] at heq
  exact List.inj_on_of_nodup_map h.peerOctet_nodup hm hn (congrArg Ipv4.third heq)

/-- Interfaces towards hosts that share a network belong to one node. -/
theorem eq_of_hostSide (h : Lists reserved names nodes) (hm : m ∈ nodes) (hn : n ∈ nodes)
    (ha : a ∈ m.hostSide) (hb : b ∈ n.hostSide) (heq : a.network = b.network) : m = n := by
  rw [NodeAddresses.network_of_mem_hostSide ha, NodeAddresses.network_of_mem_hostSide hb] at heq
  exact List.inj_on_of_nodup_map h.hostOctet_nodup hm hn (congrArg Ipv4.third heq)

/-- The two addresses of a router differ in their first octets, and those of different routers in their
third ones. -/
theorem routerAddrs_nodup (h : Lists reserved names nodes) :
    (nodes.flatMap fun n => [n.routerId, n.gateway]).Nodup := by
  rw [List.nodup_flatMap]
  refine ⟨fun n _ => by simp [NodeAddresses.routerId, NodeAddresses.gateway], ?_⟩
  have hoctets := (List.pairwise_map.1 h.peerOctet_nodup).and (List.pairwise_map.1 h.hostOctet_nodup)
  refine hoctets.imp fun {m n} hne => ?_
  simpa [Function.onFun, NodeAddresses.routerId, NodeAddresses.gateway] using
    And.intro hne.1.symm hne.2.symm

theorem hostAddr_nodup (h : Lists reserved names nodes) :
    (nodes.map fun n => (⟨192, 168, n.hostOctet, 1⟩ : Ipv4)).Nodup := by
  refine List.pairwise_map.2 ((List.pairwise_map.1 h.hostOctet_nodup).imp fun hne heq => ?_)
  exact hne (congrArg Ipv4.third heq)

end AddressPlan.Lists

/-! ## The interfaces for a plan -/

namespace EmulatedNetwork

variable {p : AddressPlan} {t : Topology} {s : Settings} {confDir : Path} {names : List String}

theorem interfaceNets_ofPlan (p : AddressPlan) (t : Topology) (s : Settings) (confDir : Path) :
    (ofPlan p t s confDir).interfaceNets =
      p.nodes.flatMap (fun n => [n.routerNet, .of24 n.gateway]) ++
        p.nodes.map NodeAddresses.hostNet ++ p.nodes.map NodeAddresses.peeringNet := by
  have hrouters : (p.nodes.map fun n => routerOf confDir n (interfacesOf n) (some n.peeringAddr)).flatMap
      (fun r => r.interfaces.flatMap Interface.addrs) =
        p.nodes.flatMap fun n => [n.routerNet, .of24 n.gateway] := List.flatMap_map ..
  have hhosts : (p.nodes.map hostOf).map Host.addr = p.nodes.map NodeAddresses.hostNet :=
    List.map_map ..
  rw [interfaceNets, ofPlan, hrouters, hhosts, speakerOf, List.flatMap_singleton]

/-- Every interface is on a side of a node. -/
theorem mem_interfaceNets_iff {a : Subnet} :
    a ∈ (ofPlan p t s confDir).interfaceNets ↔
      ∃ n ∈ p.nodes, a ∈ n.speakerSide ∨ a ∈ n.hostSide := by
  rw [interfaceNets_ofPlan]
  simp only [List.mem_append, List.mem_flatMap, List.mem_map, List.mem_cons, List.not_mem_nil, or_false,
    NodeAddresses.speakerSide, NodeAddresses.hostSide]
  constructor
  · rintro ((⟨n, hn, rfl | rfl⟩ | ⟨n, hn, rfl⟩) | ⟨n, hn, rfl⟩)
    · exact ⟨n, hn, .inl (.inl rfl)⟩
    · exact ⟨n, hn, .inr (.inl rfl)⟩
    · exact ⟨n, hn, .inr (.inr rfl)⟩
    · exact ⟨n, hn, .inl (.inr rfl)⟩
  · rintro ⟨n, hn, (rfl | rfl) | (rfl | rfl)⟩
    · exact .inl (.inl ⟨n, hn, .inl rfl⟩)
    · exact .inr ⟨n, hn, rfl⟩
    · exact .inl (.inl ⟨n, hn, .inr rfl⟩)
    · exact .inl (.inr ⟨n, hn, rfl⟩)

theorem same_network_ofPlan (h : AddressPlan.Lists s.reserved names p.nodes) {a b : Subnet}
    (ha : a ∈ (ofPlan p t s confDir).interfaceNets) (hb : b ∈ (ofPlan p t s confDir).interfaceNets)
    (hne : a ≠ b) :
    a.network = b.network ↔
      ∃ x ∈ p.nodes.map (NodeAddresses.parts confDir), x.Shares a b ∨ x.Shares b a := by
  obtain ⟨m, hm, ha⟩ := mem_interfaceNets_iff.1 ha
  obtain ⟨n, hn, hb⟩ := mem_interfaceNets_iff.1 hb
  constructor
  · intro heq
    rcases ha with ha | ha
    · rcases hb with hb | hb
      · obtain rfl := h.eq_of_speakerSide hm hn ha hb heq
        exact ⟨_, List.mem_map_of_mem hm, (mem_pair_cases ha hb hne).imp .inl .inl⟩
      · exact absurd heq (NodeAddresses.network_ne_of_mem_sides ha hb)
    · rcases hb with hb | hb
      · exact absurd heq.symm (NodeAddresses.network_ne_of_mem_sides hb ha)
      · obtain rfl := h.eq_of_hostSide hm hn ha hb heq
        exact ⟨_, List.mem_map_of_mem hm, (mem_pair_cases ha hb hne).imp .inr .inr⟩
  · rintro ⟨x, hx, hab | hba⟩
    · obtain ⟨n, -, rfl⟩ := List.mem_map.1 hx
      exact NodeAddresses.network_eq_of_shares hab
    · obtain ⟨n, -, rfl⟩ := List.mem_map.1 hx
      exact (NodeAddresses.network_eq_of_shares hba).symm

/-- Addresses that are derived from one octet of the nodes differ in it, and the others in their first or
last octets. -/
theorem address_nodup_ofPlan (h : AddressPlan.Lists s.reserved names p.nodes) :
    ((ofPlan p t s confDir).interfaceNets.map Subnet.address).Nodup := by
  have haddresses : (ofPlan p t s confDir).interfaceNets.map Subnet.address =
      p.nodes.flatMap (fun n => [n.routerId, n.gateway]) ++
        p.nodes.map (fun n => ⟨192, 168, n.hostOctet, 1⟩) ++ p.nodes.map NodeAddresses.peeringAddr := by
    rw [interfaceNets_ofPlan]
    simp only [List.map_append, List.map_flatMap, List.map_map]
    rfl
  rw [haddresses]
  refine List.nodup_append.2 ⟨List.nodup_append.2 ⟨h.routerAddrs_nodup, h.hostAddr_nodup, ?_⟩,
    h.address_nodup 101, ?_⟩
  · intro a ha b hb
    obtain ⟨m, -, ha⟩ := List.mem_flatMap.1 ha
    obtain ⟨n, -, rfl⟩ := List.mem_map.1 hb
    simp only [List.mem_cons, List.not_mem_nil, or_false] at ha
    rcases ha with rfl | rfl
    · simp [NodeAddresses.routerId]
    · simp [NodeAddresses.gateway]
  · intro a ha b hb
    obtain ⟨n, -, rfl⟩ := List.mem_map.1 hb
    rcases List.mem_append.1 ha with ha | ha
    · obtain ⟨m, -, ha⟩ := List.mem_flatMap.1 ha
      simp only [List.mem_cons, List.not_mem_nil, or_false] at ha
      rcases ha with rfl | rfl
      · simp [NodeAddresses.routerId, NodeAddresses.peeringAddr]
      · simp [NodeAddresses.gateway, NodeAddresses.peeringAddr]
    · obtain ⟨m, -, rfl⟩ := List.mem_map.1 ha
      simp [NodeAddresses.peeringAddr]

/-! ## The names of interfaces -/

theorem interfaceName_inj {x y : String} {j k : Nat} (hj : j < 10) (hk : k < 10)
    (h : interfaceName x j = interfaceName y k) : x = y ∧ j = k := by
  have hdigit : ∀ {k : Nat}, k < 10 → (natText k).length = 1 := fun hk => by
    rw [natText, Nat.toDigits_of_lt_base hk, List.length_singleton]
  have hlists := congrArg String.toList h
  simp only [interfaceName, decimal, String.toList_append, String.toList_ofList] at hlists
  obtain ⟨hname, hnumber⟩ := List.append_inj' hlists (by rw [hdigit hj, hdigit hk])
  exact ⟨String.toList_injective (List.append_cancel_right hname), natText_injective hnumber⟩

/-- Interfaces that are numbered on routers with different names have different names. -/
theorem interfaceNames_nodup {routers : List Router} (hnames : (routers.map Router.name).Nodup)
    (h : ∀ r ∈ routers, (r.interfaces.map Interface.name).Sublist
      [interfaceName r.name 0, interfaceName r.name 1]) :
    (routers.flatMap fun r => r.interfaces.map Interface.name).Nodup := by
  have hnumber : ∀ r ∈ routers, ∀ x ∈ r.interfaces.map Interface.name,
      ∃ k < 10, x = interfaceName r.name k := by
    intro r hr x hx
    have hx := (h r hr).subset hx
    simp only [List.mem_cons, List.not_mem_nil, or_false] at hx
    rcases hx with rfl | rfl
    · exact ⟨0, by decide, rfl⟩
    · exact ⟨1, by decide, rfl⟩
  rw [List.nodup_flatMap]
  constructor
  · intro r hr
    refine List.Nodup.sublist (h r hr) (List.nodup_cons.2 ⟨fun hmem => ?_, List.nodup_singleton _⟩)
    exact absurd (interfaceName_inj (by decide) (by decide) (List.mem_singleton.1 hmem)).2 (by decide)
  · refine (List.pairwise_map.1 hnames).imp_of_mem fun hr hr' hne x hx hx' => ?_
    obtain ⟨j, hj, rfl⟩ := hnumber _ hr x hx
    obtain ⟨k, hk, heq⟩ := hnumber _ hr' _ hx'
    exact hne (interfaceName_inj hj hk heq).1

/-! ## Networks of backbones -/

theorem routerMacs_ofPlan (p : AddressPlan) (t : Topology) (s : Settings) (confDir : Path) :
    (ofPlan p t s confDir).routerMacs = p.nodes.map NodeAddresses.routerMac := by
  have hmacs : (ofPlan p t s confDir).routerMacs = p.nodes.flatMap fun n => [n.routerMac] :=
    List.flatMap_map ..
  rw [hmacs, List.map_eq_flatMap]

theorem datapath_nodup_ofPlan (h : AddressPlan.Lists s.reserved names p.nodes) :
    ((ofPlan p t s confDir).switches.map Switch.datapath).Nodup := by
  have hdatapaths : (ofPlan p t s confDir).switches.map Switch.datapath =
      (p.nodes.map NodeAddresses.index).map fun i => datapathText (datapathId i) := by
    rw [ofPlan, List.map_map, List.map_map]
    rfl
  rw [hdatapaths]
  exact h.index_nodup.map fun _ _ heq => Nat.add_left_cancel (datapathText_injective heq)

/-- The names of the interfaces belong to routers whose names are those of different parts. -/
theorem interfaceNames_nodup_ofPlan (h : (ofPlan p t s confDir).partNames.Nodup) :
    (ofPlan p t s confDir).interfaceNames.Nodup := by
  refine interfaceNames_nodup ?_ fun r hr => ?_
  · rw [partNames] at h
    rw [List.map_append]
    refine h.sublist (List.Sublist.append ?_ (List.Sublist.refl _))
    exact (List.sublist_append_right _ _).trans (List.sublist_append_left _ _)
  · rcases List.mem_append.1 hr with hr | hr
    · obtain ⟨n, -, rfl⟩ := List.mem_map.1 hr
      exact List.Sublist.refl _
    · obtain rfl := List.mem_singleton.1 hr
      exact (List.nil_sublist _).cons_cons _

variable {n : EmulatedNetwork}

/-- The network for a plan gives distinct addresses and names to the parts of its nodes. -/
theorem hasDistinctAddresses_ofPlan (hp : AddressPlan.ofTopology t s.reserved = .ok p) :
    (ofPlan p t s confDir).HasDistinctAddresses (p.nodes.map (NodeAddresses.parts confDir)) := by
  have hlists := AddressPlan.ofNames_lists hp
  have hnames : (ofPlan p t s confDir).partNames.Nodup :=
    partNames_nodup (by rw [ofTopology_eq, hp]; rfl)
  constructor
  case address_nodup => exact address_nodup_ofPlan hlists
  case length_eq =>
    intro a ha
    obtain ⟨n, -, hn⟩ := mem_interfaceNets_iff.1 ha
    exact NodeAddresses.length_of_mem_sides hn
  case same_network => exact fun a ha b hb => same_network_ofPlan hlists ha hb
  case gateway =>
    intro x hx
    obtain ⟨n, -, rfl⟩ := List.mem_map.1 hx
    rfl
  case default_route =>
    intro x hx
    obtain ⟨n, -, rfl⟩ := List.mem_map.1 hx
    exact ⟨rfl, n.network_peeringNet⟩
  case datapath_nodup => exact datapath_nodup_ofPlan hlists
  case partNames_nodup => exact hnames
  case interfaceNames_nodup => exact interfaceNames_nodup_ofPlan hnames
  case routerMacs_nodup => exact routerMacs_ofPlan p t s confDir ▸ hlists.routerMac_nodup
  case routerMac =>
    intro mac hmac
    rw [routerMacs_ofPlan] at hmac
    obtain ⟨n, -, rfl⟩ := List.mem_map.1 hmac
    exact n.isHardwareAddress_routerMac

end EmulatedNetwork

/-! ## The display -/

/-- The routers of the display have hardware addresses. -/
theorem DisplayHints.isHardwareAddress_ofNodes {p : AddressPlan} {s : Settings} {names : List String}
    (h : AddressPlan.Lists s.reserved names p.nodes) :
    ∀ x ∈ (ofNodes p.nodes s).hosts, x.kind = "router" → IsHardwareAddress x.mac := by
  intro x hx hkind
  rcases List.mem_append.1 hx with hx | hx
  · obtain ⟨n, hn, rfl⟩ := List.mem_map.1 hx
    obtain ⟨hlow, hhigh⟩ := h.index_bounds hn
    have hoctet := (h.octets n.index hlow hhigh).1
    exact NodeAddresses.isHardwareAddress_displayMac (by omega)
  · obtain rfl := List.mem_singleton.1 hx
    have hspeaker : "bgpSpeaker" ≠ "router" := by decide
    exact absurd hkind hspeaker

/-- The addresses of the network for a backbone never clash: its nodes have parts with distinct addresses
and names, and the routers of the display file have hardware addresses. -/
theorem addresses_distinct {t : Topology} {s : Settings} {confDir : Path} {n : EmulatedNetwork}
    (h : EmulatedNetwork.ofTopology t s confDir = .ok n) :
    (∃ xs : List NodeParts, xs.length = t.size ∧ n.ConsistsOf s.speaker.mac xs ∧
      n.HasDistinctAddresses xs) ∧
      ∃ a text d, compile t s = .ok a ∧ a.files.find? displayFile = some text ∧
        ofJson? text = some (d : DisplayHints) ∧
          ∀ x ∈ d.hosts, x.kind = "router" → IsHardwareAddress x.mac := by
  obtain ⟨p, hp, rfl⟩ := EmulatedNetwork.ofTopology_eq_ok h
  have hlists := AddressPlan.ofNames_lists hp
  constructor
  · refine ⟨p.nodes.map (NodeAddresses.parts confDir), ?_,
      EmulatedNetwork.ofPlan_consistsOf hlists t confDir,
      EmulatedNetwork.hasDistinctAddresses_ofPlan hp⟩
    rw [List.length_map, hlists.length_eq]
    rfl
  · have hcompile : compile t s = .ok (.ofPlan p s) := by
      rw [compile_eq, hp]
      rfl
    exact ⟨_, _, _, hcompile, (Artifacts.filesHold_ofPlan hlists.index_nodup s).display,
      (DisplayHints.kept _).ofJson?_toPrettyJson, DisplayHints.isHardwareAddress_ofNodes hlists⟩

/-- Rules that exchange the address indices of two nodes. -/
theorem addresses_distinct_exchanged :
    let t : Topology := ⟨.ofList ["Denver", "Seattle"], .empty, by decide, fun _ h => nomatch h⟩
    let s : Settings := { Settings.default with reserved := [⟨1, .fixed 2⟩, ⟨2, .fixed 1⟩] }
    ∃ n xs, EmulatedNetwork.ofTopology t s ⟨"configs"⟩ = .ok n ∧ xs.length = 2 ∧
      n.HasDistinctAddresses xs ∧ n.routerMacs = ["0a:00:00:00:02:01", "0a:00:00:00:01:01"] := by
  intro t s
  obtain ⟨⟨xs, hlength, -, hdistinct⟩, -⟩ := @addresses_distinct t s ⟨"configs"⟩ _ rfl
  exact ⟨_, xs, rfl, hlength, hdistinct, by decide⟩

end BackboneLab
