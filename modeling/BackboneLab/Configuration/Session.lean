import BackboneLab.Settings.Deployment

/-!
# Configurations of the routing daemons

Every router has one session, with the speaker; the speaker has a session with every router and one
with the controller. A configuration is a list of lines, and its text has line feeds between them but
none at the end.
-/

namespace BackboneLab

/-- The text of a list of lines. -/
def textOfLines (ls : List String) : String :=
  String.ofList (Text.join ['\n'] (ls.map String.toList))

/-- A number of 32 bits in decimal notation. -/
def decimal32 (n : UInt32) : String := decimal n.toNat

/-- The line that sets the password of a daemon. -/
def passwordLine (password : String) : String := "password " ++ password

/-- The line that sets the timers of all sessions. -/
def timersLine (s : SessionSettings) : String :=
  "  timers bgp " ++ decimal32 s.keepalive ++ " " ++ decimal32 s.hold

/-- A statement about the neighbor with the given address. -/
def neighborLine (neighbor : Ipv4) (statement : String) : String :=
  "  neighbor " ++ neighbor.text ++ " " ++ statement

/-- The statements about a neighbor in another autonomous system. -/
def neighborLines (neighbor : Ipv4) (asNumber : Nat) (s : SessionSettings) : List String :=
  [neighborLine neighbor ("remote-as " ++ decimal asNumber),
    neighborLine neighbor "ebgp-multihop",
    neighborLine neighbor ("timers connect " ++ decimal32 s.connectTimer),
    neighborLine neighbor ("advertisement-interval " ++ decimal32 s.advertisementInterval)]

/-- The configuration of a router: its session with the speaker, and the network of its host. -/
def routerConfig (n : NodeAddresses) (s : SessionSettings) : List String :=
  ["! BGP configuration for " ++ n.hostname,
    "!",
    "hostname " ++ n.hostname,
    passwordLine s.password,
    "!",
    "router bgp " ++ decimal (n.asNumber s.baseAs.toNat),
    "  bgp router-id " ++ n.routerId.text,
    timersLine s] ++
  neighborLines n.peeringAddr s.baseAs.toNat s ++
  ["  network " ++ n.hostPrefix.text,
    "!",
    "log stdout"]

/-- The speaker's session with a router. -/
def speakerSession (s : SessionSettings) (n : NodeAddresses) : List String :=
  "  !" :: neighborLines n.routerId (n.asNumber s.baseAs.toNat) s

/-- The configuration of the speaker: a session with every router, and one with the controller in its
own autonomous system. -/
def speakerConfig (nodes : List NodeAddresses) (s : Settings) : List String :=
  let controller := s.controller.bgpPeer
  ["!",
    "hostname bgp",
    passwordLine s.bgp.password,
    "!",
    "!",
    "router bgp " ++ decimal32 s.bgp.baseAs,
    "  bgp router-id " ++ s.speaker.routerId.text,
    timersLine s.bgp] ++
  nodes.flatMap (speakerSession s.bgp) ++
  ["  ! ONOS",
    neighborLine controller ("remote-as " ++ decimal32 s.bgp.baseAs),
    neighborLine controller ("port " ++ decimal s.controller.bgpPort.toNat),
    neighborLine controller ("timers connect " ++ decimal32 s.bgp.connectTimer),
    "!",
    "log stdout"]

/-- The configuration of the daemon that keeps the routing table, the same for all routers. -/
def zebraConfig (s : SessionSettings) : List String :=
  ["! Configuration for zebra (NB: it is the same for all routers)",
    "!",
    "hostname zebra",
    passwordLine s.password,
    "log stdout"]

end BackboneLab
