import BackboneLab.Backbone.AddressPlan
import BackboneLab.Time.Span
import BackboneLab.Traffic.Generator

/-!
# Settings of a deployment

All values of a deployment that may be chosen. Every section and every value of a section has a
default, which it takes in a document that leaves it out.
-/

namespace BackboneLab

/-- The sessions between the routers and the speaker. -/
structure SessionSettings where
  /-- The number of the speaker's autonomous system. That of a router is greater by its index. -/
  baseAs : UInt32 := 65000
  /-- The password of every routing daemon. -/
  password : String := "sdnip"
  keepalive : UInt32 := 3
  hold : UInt32 := 9
  connectTimer : UInt32 := 5
  advertisementInterval : UInt32 := 5
deriving DecidableEq, Inhabited

/-- The speaker, which has a session with every router and one with the controller. -/
structure SpeakerSettings where
  name : String := "speaker1"
  routerId : Ipv4 := ⟨10, 10, 10, 20⟩
  mac : String := "00:00:00:00:00:01"
  /-- The index of the switch to which the speaker is attached. -/
  switch : UInt64 := 3
  /-- The port of that switch. -/
  port : UInt32 := 2
deriving DecidableEq, Inhabited

/-- Where and how the controller is reached. -/
structure ControllerSettings where
  bgpPeer : Ipv4 := ⟨10, 10, 10, 1⟩
  bgpPort : UInt16 := 2000
  restHost : String := "localhost"
  restPort : UInt16 := 8181
  username : String := "onos"
  password : String := "rocks"
  /-- How often the controller reads the counters of the switches, in seconds. -/
  flowPollFrequency : UInt32 := 5
deriving DecidableEq, Inhabited

/-- The course of an experiment. -/
structure SyncSettings where
  pollIntervalMillis : UInt64 := 1000
  /-- When to give up waiting for the intents. Without it the wait has no end. -/
  pollTimeoutSeconds : Option UInt64 := none
  triggerPort : UInt16 := 12345
  bundlePort : UInt16 := 12346
  trafficTool : Generator := .iperf3
deriving DecidableEq, Inhabited

/-- The time between two polls. -/
def SyncSettings.pollInterval (s : SyncSettings) : Span := .ofMillis s.pollIntervalMillis

/-- The time after which waiting is given up. -/
def SyncSettings.pollTimeout (s : SyncSettings) : Option Span := s.pollTimeoutSeconds.map .ofSeconds

/-- Where the routing daemons are, and where they keep their files while they run. -/
structure QuaggaSettings where
  binDir : Path := ⟨"/usr/lib/quagga"⟩
  runDir : Path := ⟨"/var/run/quagga"⟩
deriving DecidableEq, Inhabited

/-- All settings of a deployment. -/
structure Settings where
  bgp : SessionSettings := {}
  speaker : SpeakerSettings := {}
  controller : ControllerSettings := {}
  reserved : List ReservedIndex := defaultReserved
  sync : SyncSettings := {}
  quagga : QuaggaSettings := {}
deriving DecidableEq

namespace Settings

/-- The settings of a deployment that chooses nothing. -/
def default : Settings := {}

instance : Inhabited Settings := ⟨default⟩

end Settings

/-! ## Documents -/

instance : Wire SessionSettings where
  encode s := .object
    [("base_as", encode s.baseAs), ("password", encode s.password), ("keepalive", encode s.keepalive),
      ("hold", encode s.hold), ("connect_timer", encode s.connectTimer),
      ("advertisement_interval", encode s.advertisementInterval)]
  decode t := do
    let d : SessionSettings := {}
    let f ← Fields.ofDatum?
      ["base_as", "password", "keepalive", "hold", "connect_timer", "advertisement_interval"] t
    return ⟨← f.withDefault "base_as" d.baseAs, ← f.withDefault "password" d.password,
      ← f.withDefault "keepalive" d.keepalive, ← f.withDefault "hold" d.hold,
      ← f.withDefault "connect_timer" d.connectTimer,
      ← f.withDefault "advertisement_interval" d.advertisementInterval⟩

instance : Wire SpeakerSettings where
  encode s := .object
    [("name", encode s.name), ("router_id", encode s.routerId), ("mac", encode s.mac),
      ("switch", encode s.switch), ("port", encode s.port)]
  decode t := do
    let d : SpeakerSettings := {}
    let f ← Fields.ofDatum? ["name", "router_id", "mac", "switch", "port"] t
    return ⟨← f.withDefault "name" d.name, ← f.withDefault "router_id" d.routerId,
      ← f.withDefault "mac" d.mac, ← f.withDefault "switch" d.switch, ← f.withDefault "port" d.port⟩

instance : Wire ControllerSettings where
  encode s := .object
    [("bgp_peer", encode s.bgpPeer), ("bgp_port", encode s.bgpPort), ("rest_host", encode s.restHost),
      ("rest_port", encode s.restPort), ("username", encode s.username),
      ("password", encode s.password), ("flow_poll_frequency", encode s.flowPollFrequency)]
  decode t := do
    let d : ControllerSettings := {}
    let f ← Fields.ofDatum?
      ["bgp_peer", "bgp_port", "rest_host", "rest_port", "username", "password",
        "flow_poll_frequency"] t
    return ⟨← f.withDefault "bgp_peer" d.bgpPeer, ← f.withDefault "bgp_port" d.bgpPort,
      ← f.withDefault "rest_host" d.restHost, ← f.withDefault "rest_port" d.restPort,
      ← f.withDefault "username" d.username, ← f.withDefault "password" d.password,
      ← f.withDefault "flow_poll_frequency" d.flowPollFrequency⟩

instance : Wire SyncSettings where
  encode s := .object
    [("poll_interval_ms", encode s.pollIntervalMillis), ("poll_timeout_s", encode s.pollTimeoutSeconds),
      ("trigger_port", encode s.triggerPort), ("bundle_port", encode s.bundlePort),
      ("traffic_tool", encode s.trafficTool)]
  decode t := do
    let d : SyncSettings := {}
    let f ← Fields.ofDatum?
      ["poll_interval_ms", "poll_timeout_s", "trigger_port", "bundle_port", "traffic_tool"] t
    return ⟨← f.withDefault "poll_interval_ms" d.pollIntervalMillis,
      ← f.withDefault "poll_timeout_s" d.pollTimeoutSeconds,
      ← f.withDefault "trigger_port" d.triggerPort, ← f.withDefault "bundle_port" d.bundlePort,
      ← f.withDefault "traffic_tool" d.trafficTool⟩

instance : Wire QuaggaSettings where
  encode s := .object [("bin_dir", encode s.binDir), ("run_dir", encode s.runDir)]
  decode t := do
    let d : QuaggaSettings := {}
    let f ← Fields.ofDatum? ["bin_dir", "run_dir"] t
    return ⟨← f.withDefault "bin_dir" d.binDir, ← f.withDefault "run_dir" d.runDir⟩

instance : Wire Settings where
  encode s := .object
    [("bgp", encode s.bgp), ("speaker", encode s.speaker), ("controller", encode s.controller),
      ("reserved", encode s.reserved), ("sync", encode s.sync), ("quagga", encode s.quagga)]
  decode t := do
    let d := Settings.default
    let f ← Fields.ofDatum? ["bgp", "speaker", "controller", "reserved", "sync", "quagga"] t
    return ⟨← f.withDefault "bgp" d.bgp, ← f.withDefault "speaker" d.speaker,
      ← f.withDefault "controller" d.controller, ← f.withDefault "reserved" d.reserved,
      ← f.withDefault "sync" d.sync, ← f.withDefault "quagga" d.quagga⟩

end BackboneLab
