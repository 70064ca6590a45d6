import BackboneLab.Proofs.Backbone.AddressPlan
import BackboneLab.Proofs.Configuration.Controller
import BackboneLab.Proofs.Configuration.FileSet
import BackboneLab.Proofs.Configuration.Statements

/-!
# Both sides of every session agree

The speaker and a router declare their session in different files, and a session of which only one side
is configured is never established. `Session` is what the two sides have to agree on, and
`sessions_mirrored` says that every router declares its own session, the speaker declares those of all
routers and the one with the controller, and the controller is told the same addresses.
-/

namespace BackboneLab

/-! ## Declared sessions -/

/-- What the configuration of a daemon declares about its sessions, in the order of the lines. -/
structure DeclaredSessions where
  localAs : List Nat := []
  routerIds : List Ipv4 := []
  /-- The time between two messages and the time after which a neighbor is lost. -/
  timers : List (Nat × Nat) := []
  /-- The neighbors, with the numbers of their autonomous systems. -/
  neighbors : List (Ipv4 × Nat) := []
  connectTimers : List (Ipv4 × Nat) := []
  advertisementIntervals : List (Ipv4 × Nat) := []
deriving DecidableEq

namespace DeclaredSessions

/-- What is declared by a statement and those behind it. -/
def add : SessionStatement → DeclaredSessions → DeclaredSessions
  | .localAs n, d => { d with localAs := n :: d.localAs }
  | .routerId a, d => { d with routerIds := a :: d.routerIds }
  | .timers k h, d => { d with timers := (k, h) :: d.timers }
  | .remoteAs a n, d => { d with neighbors := (a, n) :: d.neighbors }
  | .connectTimer a n, d => { d with connectTimers := (a, n) :: d.connectTimers }
  | .advertisementInterval a n, d =>
    { d with advertisementIntervals := (a, n) :: d.advertisementIntervals }

/-- What the text of a configuration declares, read line by line. -/
def ofText (text : String) : DeclaredSessions :=
  ((Text.lines text.toList).filterMap fun l => SessionStatement.ofWords? (Text.words l)).foldr add {}

/-- What a list of lines declares. -/
def ofLines (ls : List String) : DeclaredSessions := (ls.filterMap statement?).foldr add {}

/-- The text of a configuration declares what its lines declare. -/
theorem ofText_textOfLines {ls : List String} (h : ∀ l ∈ ls, OneLine l) :
    ofText (textOfLines ls) = ofLines ls := by
  rw [ofText, filterMap_textOfLines rfl h]
  rfl

theorem ofLines_nil : ofLines [] = {} := rfl

theorem ofLines_cons {l : String} {x : SessionStatement} (h : statement? l = some x)
    (ls : List String) : ofLines (l :: ls) = add x (ofLines ls) := by
  rw [ofLines, List.filterMap_cons_some h]
  rfl

theorem ofLines_skip {l : String} (h : statement? l = none) (ls : List String) :
    ofLines (l :: ls) = ofLines ls := by
  rw [ofLines, List.filterMap_cons_none h]
  rfl

/-- The statements about a neighbor declare it once, with its timers. -/
theorem ofLines_neighborLines (a : Ipv4) (n : Nat) (s : SessionSettings) (ls : List String) :
    ofLines (neighborLines a n s ++ ls) =
      { ofLines ls with
        neighbors := (a, n) :: (ofLines ls).neighbors
        connectTimers := (a, s.connectTimer.toNat) :: (ofLines ls).connectTimers
        advertisementIntervals :=
          (a, s.advertisementInterval.toNat) :: (ofLines ls).advertisementIntervals } := by
  rw [neighborLines, List.cons_append, ofLines_cons (statement?_remoteAs a n), List.cons_append,
    ofLines_skip (statement?_multihop a), List.cons_append, decimal32,
    ofLines_cons (statement?_connectTimer a _), List.cons_append, decimal32,
    ofLines_cons (statement?_advertisementInterval a _), List.nil_append]
  rfl

/-- The speaker's statements about the routers declare each of them once, in their order. -/
theorem ofLines_speakerSession (s : SessionSettings) (nodes : List NodeAddresses) (ls : List String) :
    ofLines (nodes.flatMap (speakerSession s) ++ ls) =
      { ofLines ls with
        neighbors := nodes.map (fun n => (n.routerId, n.asNumber s.baseAs.toNat)) ++
          (ofLines ls).neighbors
        connectTimers := nodes.map (fun n => (n.routerId, s.connectTimer.toNat)) ++
          (ofLines ls).connectTimers
        advertisementIntervals := nodes.map (fun n => (n.routerId, s.advertisementInterval.toNat)) ++
          (ofLines ls).advertisementIntervals } := by
  induction nodes with
  | nil => rfl
  | cons n nodes ih =>
    have hmark : statement? "  !" = none := by decide
    rw [List.flatMap_cons, List.append_assoc, speakerSession, List.cons_append, ofLines_skip hmark,
      ofLines_neighborLines, ih]
    rfl

/-- A router declares its number, its identifier and the speaker. -/
theorem ofLines_routerConfig (n : NodeAddresses) (s : SessionSettings) :
    ofLines (routerConfig n s) = {
      localAs := [n.asNumber s.baseAs.toNat]
      routerIds := [n.routerId]
      timers := [(s.keepalive.toNat, s.hold.toNat)]
      neighbors := [(n.peeringAddr, s.baseAs.toNat)]
      connectTimers := [(n.peeringAddr, s.connectTimer.toNat)]
      advertisementIntervals := [(n.peeringAddr, s.advertisementInterval.toNat)] } := by
  have hmark : statement? "!" = none := by decide
  have hlog : statement? "log stdout" = none := by decide
  have hheader : Opens "! BGP configuration for " ["!", "BGP", "configuration", "for"] := by decide
  have hhost : Opens "hostname " ["hostname"] := by decide
  have hnetwork : Opens "  network " ["network"] := by decide
  simp only [routerConfig, List.cons_append, List.nil_append]
  rw [ofLines_skip (hheader.statement?_eq_none (by decide) _), ofLines_skip hmark,
    ofLines_skip (hhost.statement?_eq_none (by decide) _), ofLines_skip (statement?_passwordLine _),
    ofLines_skip hmark, ofLines_cons (statement?_localAs _), ofLines_cons (statement?_routerId _),
    ofLines_cons (statement?_timersLine s), ofLines_neighborLines,
    ofLines_skip (hnetwork.statement?_eq_none (by decide) _), ofLines_skip hmark, ofLines_skip hlog,
    ofLines_nil]
  rfl

/-- The speaker declares its number, its identifier, all routers, and the controller behind them. -/
theorem ofLines_speakerConfig (nodes : List NodeAddresses) (s : Settings) :
    ofLines (speakerConfig nodes s) = {
      localAs := [s.bgp.baseAs.toNat]
      routerIds := [s.speaker.routerId]
      timers := [(s.bgp.keepalive.toNat, s.bgp.hold.toNat)]
      neighbors := nodes.map (fun n => (n.routerId, n.asNumber s.bgp.baseAs.toNat)) ++
        [(s.controller.bgpPeer, s.bgp.baseAs.toNat)]
      connectTimers := nodes.map (fun n => (n.routerId, s.bgp.connectTimer.toNat)) ++
        [(s.controller.bgpPeer, s.bgp.connectTimer.toNat)]
      advertisementIntervals :=
        nodes.map (fun n => (n.routerId, s.bgp.advertisementInterval.toNat)) } := by
  have hmark : statement? "!" = none := by decide
  have hlog : statement? "log stdout" = none := by decide
  have hhost : statement? "hostname bgp" = none := by decide
  have hcontroller : statement? "  ! ONOS" = none := by decide
  simp only [speakerConfig, List.cons_append, List.nil_append]
  rw [ofLines_skip hmark, ofLines_skip hhost, ofLines_skip (statement?_passwordLine _),
    ofLines_skip hmark, ofLines_skip hmark, decimal32, ofLines_cons (statement?_localAs _),
    ofLines_cons (statement?_routerId _), ofLines_cons (statement?_timersLine _),
    ofLines_speakerSession, ofLines_skip hcontroller, ofLines_cons (statement?_remoteAs _ _),
    ofLines_skip (statement?_port _ _), decimal32, ofLines_cons (statement?_connectTimer _ _),
    ofLines_skip hmark, ofLines_skip hlog, ofLines_nil]
  simp [add]

end DeclaredSessions

/-! ## Sessions -/

/-- A session of a router with the speaker. -/
structure Session where
  /-- The number of the router's autonomous system. -/
  number : Nat
  /-- The identifier of the router, which is also its address in the session. -/
  routerId : Ipv4
  /-- The address of the speaker in the session. -/
  peer : Ipv4
deriving DecidableEq

/-- What the router of a session has to declare. -/
def Session.routerSide (s : SessionSettings) (x : Session) : DeclaredSessions where
  localAs := [x.number]
  routerIds := [x.routerId]
  timers := [(s.keepalive.toNat, s.hold.toNat)]
  neighbors := [(x.peer, s.baseAs.toNat)]
  connectTimers := [(x.peer, s.connectTimer.toNat)]
  advertisementIntervals := [(x.peer, s.advertisementInterval.toNat)]

/-- What the speaker has to declare: the sessions, and the one with the controller. -/
def speakerSide (s : Settings) (xs : List Session) : DeclaredSessions where
  localAs := [s.bgp.baseAs.toNat]
  routerIds := [s.speaker.routerId]
  timers := [(s.bgp.keepalive.toNat, s.bgp.hold.toNat)]
  neighbors := xs.map (fun x => (x.routerId, x.number)) ++
    [(s.controller.bgpPeer, s.bgp.baseAs.toNat)]
  connectTimers := xs.map (fun x => (x.routerId, s.bgp.connectTimer.toNat)) ++
    [(s.controller.bgpPeer, s.bgp.connectTimer.toNat)]
  advertisementIntervals := xs.map fun x => (x.routerId, s.bgp.advertisementInterval.toNat)

/-- The files declare the given sessions on both sides, those of the routers in the order of their
indices, and no two of them can be mistaken for each other. -/
structure SessionsMirrored (s : Settings) (files : FileSet) (xs : List Session) : Prop where
  router_declares : ∀ i x, xs[i]? = some x → ∃ text,
    files.find? (routerConfigFile (i + 1)) = some text ∧
      DeclaredSessions.ofText text = x.routerSide s.bgp
  speaker_declares : ∃ text, files.find? speakerConfigFile = some text ∧
    DeclaredSessions.ofText text = speakerSide s xs
  /-- The controller reads the addresses of the routers as the peers of the speaker. -/
  controller_reads : ∃ text c, files.find? networkConfigFile = some text ∧
    ofJson? text = some c ∧ NetworkConfig.peers? c = some (xs.map Session.routerId)
  number_nodup : (xs.map Session.number).Nodup
  base_not_mem : s.bgp.baseAs.toNat ∉ xs.map Session.number
  /-- Every number is one of an autonomous system. -/
  number_lt : ∀ x ∈ xs, x.number < UInt32.size
  peer_nodup : (xs.map Session.peer).Nodup
  /-- The speaker's neighbors have different addresses, the controller among them. -/
  neighbor_nodup : (xs.map Session.routerId ++ [s.controller.bgpPeer]).Nodup
  same_network : ∀ x ∈ xs, (Subnet.of24 x.routerId).network = (Subnet.of24 x.peer).network

/-- The session of a node. -/
def NodeAddresses.session (base : Nat) (n : NodeAddresses) : Session :=
  ⟨n.asNumber base, n.routerId, n.peeringAddr⟩

/-- What a plan lists is mirrored in the files that are derived from it. -/
theorem sessionsMirrored_files {p : AddressPlan} {s : Settings} {names : List String}
    (h : AddressPlan.Lists s.reserved names p.nodes) (hpassword : OneLine s.bgp.password)
    (hbase : s.bgp.baseAs.toNat + names.length < UInt32.size)
    (hpeer : ∀ o, s.controller.bgpPeer ≠ ⟨10, 0, o, 1⟩) :
    SessionsMirrored s (Artifacts.ofPlan p s).files
      (p.nodes.map (NodeAddresses.session s.bgp.baseAs.toNat)) := by
  have hfiles := Artifacts.filesHold_ofPlan h.index_nodup s
  constructor
  case router_declares =>
    intro i x hx
    obtain ⟨n, hn, rfl⟩ : ∃ n, p.nodes[i]? = some n ∧ n.session s.bgp.baseAs.toNat = x := by
      rwa [List.getElem?_map, Option.map_eq_some_iff] at hx
    refine ⟨textOfLines (routerConfig n s.bgp), ?_, ?_⟩
    · exact h.index_eq hn ▸ hfiles.router_of_mem (List.mem_of_getElem? hn)
    · rw [DeclaredSessions.ofText_textOfLines (oneLine_routerConfig n hpassword),
        DeclaredSessions.ofLines_routerConfig]
      rfl
  case speaker_declares =>
    refine ⟨textOfLines (speakerConfig p.nodes s), hfiles.speaker, ?_⟩
    rw [DeclaredSessions.ofText_textOfLines (oneLine_speakerConfig p.nodes hpassword),
      DeclaredSessions.ofLines_speakerConfig]
    simp only [speakerSide, List.map_map]
    rfl
  case controller_reads =>
    refine ⟨toPrettyJson (NetworkConfig.ofNodes p.nodes s), .ofNodes p.nodes s, hfiles.network,
      (NetworkConfig.kept _).ofJson?_toPrettyJson, ?_⟩
    rw [List.map_map]
    rfl
  case number_nodup =>
    rw [List.map_map]
    exact h.asNumber_nodup _
  case base_not_mem =>
    rw [List.map_map]
    intro hmem
    obtain ⟨n, hn, heq⟩ := List.mem_map.1 hmem
    have := (h.index_bounds hn).1
    have : s.bgp.baseAs.toNat + n.index = s.bgp.baseAs.toNat := heq
    omega
  case number_lt =>
    intro x hx
    obtain ⟨n, hn, rfl⟩ := List.mem_map.1 hx
    have := (h.index_bounds hn).2
    show s.bgp.baseAs.toNat + n.index < UInt32.size
    omega
  case peer_nodup =>
    rw [List.map_map]
    exact h.address_nodup 101
  case neighbor_nodup =>
    have hids : (p.nodes.map (NodeAddresses.session s.bgp.baseAs.toNat)).map Session.routerId =
        p.nodes.map NodeAddresses.routerId := List.map_map ..
    rw [hids, List.nodup_append]
    refine ⟨h.address_nodup 1, List.nodup_singleton _, fun a ha b hb heq => ?_⟩
    obtain ⟨n, -, rfl⟩ := List.mem_map.1 ha
    exact hpeer n.peerOctet ((List.mem_singleton.1 hb).symm.trans heq.symm)
  case same_network =>
    intro x hx
    obtain ⟨n, -, rfl⟩ := List.mem_map.1 hx
    exact (Subnet.network_of24 _ _ _ _).trans (Subnet.network_of24 _ _ _ _).symm

/-- Both sides of every session agree. In the files of every backbone that can be configured, each router
declares one session and the speaker the other side of it, with the same timers; and the controller
reads the addresses of exactly these routers. -/
theorem sessions_mirrored {t : Topology} {s : Settings} {a : Artifacts} (h : compile t s = .ok a)
    (hpassword : '\n' ∉ s.bgp.password.toList)
    (hbase : s.bgp.baseAs.toNat + t.names.length < UInt32.size)
    (hpeer : ∀ o, s.controller.bgpPeer ≠ ⟨10, 0, o, 1⟩) :
    ∃ xs : List Session, xs.length = t.names.length ∧ SessionsMirrored s a.files xs := by
  obtain ⟨p, hp, rfl⟩ := compile_eq_ok h
  have hlists := AddressPlan.ofNames_lists hp
  refine ⟨_, ?_, sessionsMirrored_files hlists hpassword hbase hpeer⟩
  rw [List.length_map, hlists.length_eq]

/-- Two routers with the settings of a deployment that chooses nothing. -/
theorem sessions_mirrored_two_routers :
    let t : Topology := ⟨.ofList ["Denver", "Seattle"], .empty, by decide, fun _ h => nomatch h⟩
    ∃ a, compile t .default = .ok a ∧ a.plan.nodes.map NodeAddresses.addr = [1, 3] ∧
      ∃ xs : List Session, xs.length = 2 ∧ SessionsMirrored .default a.files xs := by
  intro t
  let p : AddressPlan := ⟨[⟨1, "Denver", 1, 1⟩, ⟨2, "Seattle", 2, 3⟩]⟩
  have hplan : AddressPlan.ofTopology t Settings.default.reserved = .ok p := by rfl
  have hcompile : compile t .default = .ok (.ofPlan p .default) := by
    rw [compile_eq, hplan]
    rfl
  have hpeer : ∀ o, Settings.default.controller.bgpPeer ≠ ⟨10, 0, o, 1⟩ := by
    intro o h
    have hsecond : (10 : UInt8) = 0 := congrArg Ipv4.second h
    revert hsecond
    decide
  exact ⟨.ofPlan p .default, hcompile, rfl,
    sessions_mirrored hcompile (by decide) (by decide) hpeer⟩

end BackboneLab
