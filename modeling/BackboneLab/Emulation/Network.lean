import BackboneLab.Configuration.FileSet

/-!
# Emulated networks

The network that is built for a backbone: a switch, a router and a host for every node, the speaker, and
the links between them. Switches are joined by the cables of the backbone.
-/

namespace BackboneLab

/-- A switch with its number. -/
structure Switch where
  name : String
  /-- The number, as 16 hexadecimal digits. -/
  datapath : String
deriving DecidableEq, Inhabited

/-- An interface of a router. -/
structure Interface where
  name : String
  /-- The hardware address to set, if any. -/
  mac : Option String
  addrs : List Subnet
deriving DecidableEq, Inhabited

/-- A router, or the speaker, with its routing daemons. -/
structure Router where
  name : String
  interfaces : List Interface
  defaultRoute : Option Ipv4
  bgpdConfig : Path
  zebraConfig : Path
  /-- Whether it has a network namespace of its own. -/
  inNamespace : Bool
deriving DecidableEq, Inhabited

/-- A host behind a router. -/
structure Host where
  name : String
  addr : Subnet
  gateway : Ipv4
deriving DecidableEq, Inhabited

/-- The address of a host without its prefix. -/
def Host.address (h : Host) : Ipv4 := h.addr.address

/-- A link between two named parts of the network. -/
structure Link where
  a : String
  b : String
deriving DecidableEq, Inhabited

/-- An emulated network. -/
structure EmulatedNetwork where
  switches : List Switch
  routers : List Router
  hosts : List Host
  speaker : Router
  links : List Link
deriving DecidableEq, Inhabited

namespace EmulatedNetwork

/-- The name of the speaker. -/
def speakerName : String := "bgp"

/-- The name of the switch with the given index. -/
def switchName (index : Nat) : String := "s" ++ decimal index

/-- The name of the host with the given index. -/
def hostName (index : Nat) : String := "h" ++ decimal index

/-- The switch with the given index. -/
def switchOf (index : Nat) : Switch := ⟨switchName index, datapathText (datapathId index)⟩

/-- The interface with the given number of a router. -/
def interfaceName (router : String) (number : Nat) : String := router ++ "-eth" ++ decimal number

/-- The interfaces of the router of a node: towards the speaker, and towards its host. -/
def interfacesOf (n : NodeAddresses) : List Interface :=
  [⟨interfaceName n.hostname 0, some n.routerMac, [n.routerNet]⟩,
    ⟨interfaceName n.hostname 1, none, [.of24 n.gateway]⟩]

/-- A router with a network namespace and configuration files in the given directory. -/
def routerOf (confDir : Path) (n : NodeAddresses) (interfaces : List Interface)
    (defaultRoute : Option Ipv4) : Router :=
  ⟨n.hostname, interfaces, defaultRoute, confDir.join (routerConfigFile n.index),
    confDir.join zebraConfigFile, true⟩

/-- The host behind the router of a node. -/
def hostOf (n : NodeAddresses) : Host := ⟨hostName n.index, n.hostNet, n.gateway⟩

/-- The speaker, with an address towards every router. -/
def speakerOf (nodes : List NodeAddresses) (s : Settings) (confDir : Path) : Router :=
  ⟨speakerName,
    [⟨interfaceName speakerName 0, some s.speaker.mac, nodes.map NodeAddresses.peeringNet⟩], none,
    confDir.join speakerConfigFile, confDir.join zebraConfigFile, false⟩

/-- The link of the speaker to its switch. -/
def speakerLink (s : Settings) : Link := ⟨speakerName, switchName s.speaker.switch.toNat⟩

/-- The links of the router of a node: to its switch, and to its host. -/
def nodeLinks (n : NodeAddresses) : List Link :=
  [⟨n.hostname, switchName n.index⟩, ⟨n.hostname, hostName n.index⟩]

/-- The link between two switches. -/
def switchLink (x y : Nat) : Link := ⟨switchName x, switchName y⟩

/-- The link between the switches of the two ends of a cable. -/
def cableLink? (t : Topology) (c : DirectedLink) : Option Link := do
  return switchLink (← t.indexOf? c.source) (← t.indexOf? c.target)

/-- The network of a backbone, with configuration files in the given directory. -/
def ofTopology (t : Topology) (s : Settings) (confDir : Path) : Except Fault EmulatedNetwork := do
  let plan ← AddressPlan.ofTopology t s.reserved
  return {
    switches := plan.nodes.map fun n => switchOf n.index
    routers := plan.nodes.map fun n => routerOf confDir n (interfacesOf n) (some n.peeringAddr)
    hosts := plan.nodes.map hostOf
    speaker := speakerOf plan.nodes s confDir
    links := plan.nodes.flatMap nodeLinks ++ speakerLink s :: t.cables.toList.filterMap (cableLink? t) }

/-- The addresses of all hosts. -/
def hostAddrs (n : EmulatedNetwork) : List Ipv4 := n.hosts.map Host.address

/-- The first host with the given address. -/
def hostByAddr? (n : EmulatedNetwork) (a : Ipv4) : Option Host := n.hosts.find? (·.address = a)

/-- The names of the hosts by their addresses. Of several hosts with one address the last one counts. -/
def hostNames (n : EmulatedNetwork) : OrderedMap Ipv4 String :=
  .ofList (n.hosts.map fun h => (h.address, h.name))

end EmulatedNetwork

/-! ## Documents -/

instance : Wire Switch where
  encode s := .object [("name", encode s.name), ("dpid", encode s.datapath)]
  decode t := do
    let f ← Fields.ofDatum? ["name", "dpid"] t
    return ⟨← f.required "name", ← f.required "dpid"⟩

instance : Wire Interface where
  encode i := .object [("name", encode i.name), ("mac", encode i.mac), ("addrs", encode i.addrs)]
  decode t := do
    let f ← Fields.ofDatum? ["name", "mac", "addrs"] t
    return ⟨← f.required "name", ← f.optional "mac", ← f.required "addrs"⟩

instance : Wire Router where
  encode r := .object
    [("name", encode r.name), ("interfaces", encode r.interfaces),
      ("default_route", encode r.defaultRoute), ("bgpd_config", encode r.bgpdConfig),
      ("zebra_config", encode r.zebraConfig), ("in_namespace", encode r.inNamespace)]
  decode t := do
    let f ← Fields.ofDatum?
      ["name", "interfaces", "default_route", "bgpd_config", "zebra_config", "in_namespace"] t
    return ⟨← f.required "name", ← f.required "interfaces", ← f.optional "default_route",
      ← f.required "bgpd_config", ← f.required "zebra_config", ← f.required "in_namespace"⟩

instance : Wire Host where
  encode h := .object
    [("name", encode h.name), ("addr", encode h.addr), ("gateway", encode h.gateway)]
  decode t := do
    let f ← Fields.ofDatum? ["name", "addr", "gateway"] t
    return ⟨← f.required "name", ← f.required "addr", ← f.required "gateway"⟩

instance : Wire Link where
  encode l := .object [("a", encode l.a), ("b", encode l.b)]
  decode t := do
    let f ← Fields.ofDatum? ["a", "b"] t
    return ⟨← f.required "a", ← f.required "b"⟩

instance : Wire EmulatedNetwork where
  encode n := .object
    [("switches", encode n.switches), ("routers", encode n.routers), ("hosts", encode n.hosts),
      ("speaker", encode n.speaker), ("links", encode n.links)]
  decode t := do
    let f ← Fields.ofDatum? ["switches", "routers", "hosts", "speaker", "links"] t
    return ⟨← f.required "switches", ← f.required "routers", ← f.required "hosts",
      ← f.required "speaker", ← f.required "links"⟩

end BackboneLab
