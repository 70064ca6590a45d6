import BackboneLab.Document.Wire
import BackboneLab.Text.Blank

/-!
# Messages of the controller

What the controller and its routing application tell and are told: the installed intents, measured
traffic, announced networks, and configurations of the routing.
-/

namespace BackboneLab

/-- An intent that the controller knows. -/
structure Intent where
  id : String
  key : Option String
  kind : String
  /-- The application that made the intent. -/
  appId : Option String
  /-- How far its installation has come. -/
  state : Option String
deriving DecidableEq, Inhabited

/-- Traffic measured by the routing application. -/
structure TrafficSample where
  timestamp : UInt64
  /-- The source network and the destination network with an equals sign between them. -/
  demand : String
  bytes : UInt64
deriving DecidableEq, Inhabited

/-- The source network and the destination network of a measured demand, for a reader of networks. What
stands before the first equals sign and what stands behind it is read without the blanks around it. -/
def TrafficSample.networksBy? (read? : List Char → Option Subnet) (s : TrafficSample) :
    Option (Subnet × Subnet) :=
  match s.demand.toList.span (· ≠ '=') with
  | (source, _ :: destination) => do
    return (← read? (Text.trim source), ← read? (Text.trim destination))
  | (_, []) => none

/-- The source network and the destination network of a measured demand. -/
def TrafficSample.networks? : TrafficSample → Option (Subnet × Subnet) := networksBy? Subnet.read?

/-- The networks announced behind a port of a switch. -/
structure AnnouncedPrefixes where
  connectPoint : String
  networks : List Subnet
deriving DecidableEq, Inhabited

/-- A path through the network with its share of a demand. -/
structure RoutingPath where
  /-- The numbers of the switches in order. -/
  path : List String
  weight : Float

/-- The paths of a demand between two networks. -/
structure Route where
  source : Subnet
  destination : Subnet
  paths : List RoutingPath

/-- A configuration of the routing with its number. -/
structure RoutingConfiguration where
  id : UInt32
  routes : List Route

/-! ## Documents -/

instance : Wire Intent where
  encode i := .object
    [("id", encode i.id), ("key", encode i.key), ("type", encode i.kind), ("appId", encode i.appId),
      ("state", encode i.state)]
  decode t := do
    let f ← Fields.ofDatum? ["id", "key", "type", "appId", "state"] t
    return ⟨← f.required "id", ← f.withDefault "key" none, ← f.required "type",
      ← f.withDefault "appId" none, ← f.withDefault "state" none⟩

instance : Wire TrafficSample where
  encode s := .object
    [("timestamp", encode s.timestamp), ("demand", encode s.demand), ("bytes", encode s.bytes)]
  decode t := do
    let f ← Fields.ofDatum? ["timestamp", "demand", "bytes"] t
    return ⟨← f.required "timestamp", ← f.required "demand", ← f.required "bytes"⟩

instance : Wire AnnouncedPrefixes where
  encode a := .object [("CP", encode a.connectPoint), ("IpPrefixList", encode a.networks)]
  decode t := do
    let f ← Fields.ofDatum? ["CP", "IpPrefixList"] t
    return ⟨← f.required "CP", ← f.required "IpPrefixList"⟩

instance : Wire RoutingPath where
  encode p := .object [("path", encode p.path), ("weight", encode p.weight)]
  decode t := do
    let f ← Fields.ofDatum? ["path", "weight"] t
    return ⟨← f.required "path", ← f.required "weight"⟩

/-- The two networks of a route are written as a list of two. -/
instance : Wire Route where
  encode r := .object
    [("demand", encode [r.source, r.destination]), ("paths", encode r.paths)]
  decode t := do
    let f ← Fields.ofDatum? ["demand", "paths"] t
    match ← f.required "demand" with
    | [source, destination] => return ⟨source, destination, ← f.required "paths"⟩
    | _ => none

instance : Wire RoutingConfiguration where
  encode c := .object [("r_ID", encode c.id), ("r_config", encode c.routes)]
  decode t := do
    let f ← Fields.ofDatum? ["r_ID", "r_config"] t
    return ⟨← f.required "r_ID", ← f.required "r_config"⟩

end BackboneLab
