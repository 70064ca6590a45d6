import BackboneLab.Configuration.Controller

/-!
# Display hints

Where the controller's display shows the routers and the speaker.
-/

namespace BackboneLab

/-- A host of the display. -/
structure DisplayHost where
  mac : String
  /-- The virtual network, `-1` for none. -/
  vlan : Int32
  /-- The port of the switch at which the host is shown. -/
  location : String
  /-- An address, or several with commas between them. -/
  ip : String
  /-- What is shown. -/
  kind : String
deriving DecidableEq

/-- The hosts of the display. -/
structure DisplayHints where
  hosts : List DisplayHost
deriving DecidableEq

namespace DisplayHints

/-- The display of a router. -/
def routerHost (n : NodeAddresses) : DisplayHost :=
  ⟨n.displayMac, -1, n.accessPoint, n.routerId.text, "router"⟩

/-- The display of the speaker, with its addresses towards all routers. -/
def speakerHost (nodes : List NodeAddresses) (s : Settings) : DisplayHost :=
  ⟨s.speaker.mac, -1, NetworkConfig.speakerPort s,
    String.ofList (Text.join ", ".toList (nodes.map fun n => n.peeringAddr.chars)), "bgpSpeaker"⟩

/-- All routers in their order, and the speaker after them. -/
def ofNodes (nodes : List NodeAddresses) (s : Settings) : DisplayHints :=
  ⟨nodes.map routerHost ++ [speakerHost nodes s]⟩

end DisplayHints

/-! ## Documents -/

/-- The record that holds the kind of a displayed host. -/
structure DisplayAnnotations where
  kind : String

instance : Wire DisplayAnnotations where
  encode a := .object [("type", encode a.kind)]
  decode t := do
    let f ← Fields.ofDatum? ["type"] t
    return ⟨← f.required "type"⟩

instance : Wire DisplayHost where
  encode h := .object
    [("mac", encode h.mac), ("vlan", encode h.vlan), ("location", encode h.location),
      ("ip", encode h.ip), ("annotations", encode (⟨h.kind⟩ : DisplayAnnotations))]
  decode t := do
    let f ← Fields.ofDatum? ["mac", "vlan", "location", "ip", "annotations"] t
    let a : DisplayAnnotations ← f.required "annotations"
    return ⟨← f.required "mac", ← f.required "vlan", ← f.required "location", ← f.required "ip",
      a.kind⟩

instance : Wire DisplayHints where
  encode d := .object [("hosts", encode d.hosts)]
  decode t := do
    let f ← Fields.ofDatum? ["hosts"] t
    return ⟨← f.required "hosts"⟩

end BackboneLab
