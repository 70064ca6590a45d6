import BackboneLab.Settings.Deployment

/-!
# The controller's network configuration

What the controller is told about the network: the interfaces of the speaker at the port of every
router, and the speaker with the addresses of its peers.
-/

namespace BackboneLab

/-- An interface of the speaker. -/
structure PortInterface where
  name : String
  ips : List Subnet
  mac : String
deriving DecidableEq, Inhabited

/-- The interfaces at a port of a switch. -/
structure PortConfig where
  interfaces : List PortInterface
deriving DecidableEq, Inhabited

/-- A speaker, with the port of the switch to which it is attached and the addresses of its peers. -/
structure BgpSpeaker where
  name : String
  connectPoint : String
  peers : List Ipv4
deriving DecidableEq, Inhabited

/-- The controller's network configuration. -/
structure NetworkConfig where
  /-- The interfaces by the port of the switch. -/
  ports : OrderedMap String PortConfig
  speakers : List BgpSpeaker
  /-- How often the counters of the switches are read, in seconds. -/
  flowPollFrequency : Option UInt32
deriving DecidableEq

namespace NetworkConfig

/-- The interface of the speaker towards a router. -/
def interfaceOf (s : Settings) (n : NodeAddresses) : PortInterface :=
  ⟨"sw" ++ decimal n.index ++ "-1", [n.peeringNet], s.speaker.mac⟩

/-- The port to which the speaker is attached. -/
def speakerPort (s : Settings) : String :=
  BackboneLab.connectPoint (datapathId s.speaker.switch.toNat) s.speaker.port.toNat

/-- The configuration for the given nodes. -/
def ofNodes (nodes : List NodeAddresses) (s : Settings) : NetworkConfig where
  ports := .ofList (nodes.map fun n => (n.accessPoint, ⟨[interfaceOf s n]⟩))
  speakers := [⟨s.speaker.name, speakerPort s, nodes.map NodeAddresses.routerId⟩]
  flowPollFrequency := some s.controller.flowPollFrequency

/-- The peers of the first speaker. -/
def peers? (c : NetworkConfig) : Option (List Ipv4) := c.speakers.head?.map BgpSpeaker.peers

end NetworkConfig

/-! ## Documents -/

instance : Wire PortInterface where
  encode i := .object [("name", encode i.name), ("ips", encode i.ips), ("mac", encode i.mac)]
  decode t := do
    let f ← Fields.ofDatum? ["name", "ips", "mac"] t
    return ⟨← f.required "name", ← f.required "ips", ← f.required "mac"⟩

instance : Wire PortConfig where
  encode p := .object [("interfaces", encode p.interfaces)]
  decode t := do
    let f ← Fields.ofDatum? ["interfaces"] t
    return ⟨← f.required "interfaces"⟩

instance : Wire BgpSpeaker where
  encode s := .object
    [("name", encode s.name), ("connectPoint", encode s.connectPoint), ("peers", encode s.peers)]
  decode t := do
    let f ← Fields.ofDatum? ["name", "connectPoint", "peers"] t
    return ⟨← f.required "name", ← f.required "connectPoint", ← f.required "peers"⟩

/-- The record that holds the speakers, as the value of its only member. -/
structure SpeakerList where
  speakers : List BgpSpeaker

instance : Wire SpeakerList where
  encode l := .object [("bgpSpeakers", encode l.speakers)]
  decode t := do
    let f ← Fields.ofDatum? ["bgpSpeakers"] t
    return ⟨← f.required "bgpSpeakers"⟩

/-- The part of the router application. -/
structure RouterApp where
  bgp : SpeakerList

instance : Wire RouterApp where
  encode a := .object [("bgp", encode a.bgp)]
  decode t := do
    let f ← Fields.ofDatum? ["bgp"] t
    return ⟨← f.required "bgp"⟩

/-- The part of the provider of flow rules. -/
structure FlowProviderApp where
  flowPollFrequency : UInt32

instance : Wire FlowProviderApp where
  encode a := .object [("flowPollFrequency", encode a.flowPollFrequency)]
  decode t := do
    let f ← Fields.ofDatum? ["flowPollFrequency"] t
    return ⟨← f.required "flowPollFrequency"⟩

/-- The parts of the applications of the controller. -/
structure AppsConfig where
  router : RouterApp
  flowProvider : Option FlowProviderApp

/-- The name of the router application. -/
def routerAppName : String := "org.onosproject.router"

/-- The name of the provider of flow rules. -/
def flowProviderName : String := "org.onosproject.provider.of.flow.impl.OpenFlowRuleProvider"

/-- The part of a provider without a setting is left out. -/
instance : Wire AppsConfig where
  encode a := .object ((routerAppName, encode a.router) ::
    match a.flowProvider with
    | some p => [(flowProviderName, encode p)]
    | none => [])
  decode t := do
    let f ← Fields.ofDatum? [routerAppName, flowProviderName] t
    return ⟨← f.required routerAppName, ← f.withDefault flowProviderName none⟩

instance : Wire NetworkConfig where
  encode c := .object
    [("ports", encode c.ports),
      ("apps", encode (⟨⟨⟨c.speakers⟩⟩, c.flowPollFrequency.map FlowProviderApp.mk⟩ : AppsConfig))]
  decode t := do
    let f ← Fields.ofDatum? ["ports", "apps"] t
    let ports ← f.required "ports"
    let apps : AppsConfig ← f.required "apps"
    return ⟨ports, apps.router.bgp.speakers, apps.flowProvider.map FlowProviderApp.flowPollFrequency⟩

end BackboneLab
