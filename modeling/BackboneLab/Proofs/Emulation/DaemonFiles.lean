import BackboneLab.Emulation.Launcher
import BackboneLab.Proofs.Emulation.Daemons
import BackboneLab.Proofs.Traffic.Generator

/-!
# The files of the daemons

A daemon keeps the number of its process in a file that its start command names, and it is stopped
through this file. So stopping ends the right process as long as no other daemon names the same file.
Files are named by the kind of the daemon and the name of its router, which are read back from the path
(`Daemon.pidFile_ofRouter_inj`); as every network of the lab names its routers apart, so are the files of
its daemons (`EmulatedNetwork.IsNamed.pidFile_nodup`).
-/

namespace BackboneLab

namespace Path

/-- What a directory puts in front of the names in it. -/
def lead (dir : Path) : String :=
  String.ofList (if dir.text.toList = [] ∨ dir.text.toList.getLast? = some '/' then dir.text.toList
    else dir.text.toList ++ ['/'])

/-- A name stays in its directory unless it starts at the root. -/
def IsInside (name : String) : Prop := name.toList.head? ≠ some '/'

theorem text_join (dir : Path) {name : String} (h : IsInside name) :
    (dir.join name).text = dir.lead ++ name := by
  apply String.toList_inj.1
  rw [join, joinChars, if_neg h, lead, String.toList_append, String.toList_ofList, String.toList_ofList]
  split
  · rfl
  · rw [List.append_assoc, List.singleton_append]

/-- Different names in one directory have different paths. -/
theorem join_inj (dir : Path) {name name' : String} (h : IsInside name) (h' : IsInside name') :
    dir.join name = dir.join name' ↔ name = name' := by
  refine ⟨fun heq => ?_, congrArg dir.join⟩
  have htext := congrArg Path.text heq
  rwa [text_join dir h, text_join dir h', String.append_right_inj] at htext

/-- The path of a name with an extension is no text that is shorter than the extension. -/
theorem text_join_append_ne (dir : Path) {stem extension text : String}
    (h : IsInside (stem ++ extension)) (hlength : text.length < extension.length) :
    (dir.join (stem ++ extension)).text ≠ text := by
  intro heq
  have hjoin := congrArg String.length heq
  rw [text_join dir h, String.length_append, String.length_append] at hjoin
  omega

end Path

namespace Daemon

/-! ## The files of one daemon -/

variable {q : QuaggaSettings} {r r' : Router} {kind kind' : DaemonKind}

theorem isInside_apiSocket (name : String) : Path.IsInside ("zebra" ++ name ++ ".api") := by
  simp [Path.IsInside]

theorem isInside_pidFile (kind : DaemonKind) (name : String) :
    Path.IsInside (kind.binary ++ name ++ ".pid") := by
  cases kind <;> simp [Path.IsInside, DaemonKind.binary]

/-- Daemons share a socket if and only if they run on routers of one name. -/
theorem apiSocket_ofRouter_inj :
    (ofRouter q r kind).apiSocket = (ofRouter q r' kind').apiSocket ↔ r.name = r'.name := by
  refine (Path.join_inj q.runDir (isInside_apiSocket _) (isInside_apiSocket _)).trans ?_
  rw [String.append_left_inj, String.append_right_inj]

/-- The names of the programs begin with different letters, so that what follows cannot make up for the
difference. -/
theorem binary_append_inj {name name' : String} :
    kind.binary ++ name = kind'.binary ++ name' ↔ kind = kind' ∧ name = name' := by
  cases kind <;> cases kind' <;> simp [DaemonKind.binary, ← String.toList_inj]

/-- The file of the process tells the name of the router and the kind of the daemon. -/
theorem pidFile_ofRouter_inj :
    (ofRouter q r kind).pidFile = (ofRouter q r' kind').pidFile ↔ kind = kind' ∧ r.name = r'.name := by
  refine (Path.join_inj q.runDir (isInside_pidFile _ _) (isInside_pidFile _ _)).trans ?_
  rw [String.append_left_inj, binary_append_inj]

/-- The start command names the file of the process behind `-i`, unless another of its files looks like
this option. -/
theorem argBehind?_startCommand (d : Daemon) (hconfig : d.config.text ≠ "-i")
    (hsocket : d.apiSocket.text ≠ "-i") :
    HostCommand.argBehind? "-i" d.startCommand.args = some d.pidFile.text := by
  rw [startCommand, args, HostCommand.argBehind?_skip (by decide),
    HostCommand.argBehind?_skip (by decide), HostCommand.argBehind?_skip hconfig,
    HostCommand.argBehind?_skip (by decide), HostCommand.argBehind?_skip hsocket,
    HostCommand.argBehind?_self]

end Daemon

/-! ## The daemons of a network -/

namespace EmulatedNetwork

variable {n : EmulatedNetwork} {q : QuaggaSettings}

/-- Every daemon of a network is one of the two of a router, or of the speaker. -/
theorem exists_ofRouter {d : Daemon} (h : d ∈ n.daemons q) :
    ∃ r ∈ n.routers ++ [n.speaker], ∃ kind, d = .ofRouter q r kind := by
  obtain ⟨r, hr, hd⟩ := List.mem_flatMap.1 h
  simp only [List.mem_cons, List.not_mem_nil, or_false] at hd
  rcases hd with rfl | rfl
  · exact ⟨r, hr, .zebra, rfl⟩
  · exact ⟨r, hr, .bgpd, rfl⟩

/-- In a network of routers that are named apart, no two daemons share the file of the process: those of
one router differ in their kind. -/
theorem IsNamed.pidFile_nodup (h : n.IsNamed) (q : QuaggaSettings) :
    ((n.daemons q).map Daemon.pidFile).Nodup := by
  rw [List.Nodup, List.pairwise_map]
  refine (h.daemons q).imp_of_mem fun {d d'} hd hd' hbefore hfile => ?_
  obtain ⟨r, -, kind, rfl⟩ := exists_ofRouter hd
  obtain ⟨r', -, kind', rfl⟩ := exists_ofRouter hd'
  obtain ⟨hkind, hname⟩ := Daemon.pidFile_ofRouter_inj.1 hfile
  obtain ⟨hzebra, hbgpd⟩ := hbefore hname
  simp only [Daemon.ofRouter] at hzebra hbgpd
  rw [hkind, hbgpd] at hzebra
  cases hzebra

/-! ## The networks of the lab -/

/-- The configuration files of daemons. -/
def IsConfigFile (p : Path) : Prop :=
  ∃ (confDir : Path) (stem : String),
    Path.IsInside (stem ++ ".conf") ∧ p = confDir.join (stem ++ ".conf")

theorem isConfigFile_routerConfigFile (confDir : Path) (index : Nat) :
    IsConfigFile (confDir.join (routerConfigFile index)) :=
  ⟨confDir, "quagga" ++ decimal index, by simp [Path.IsInside], rfl⟩

theorem isConfigFile_zebraConfigFile (confDir : Path) : IsConfigFile (confDir.join zebraConfigFile) :=
  ⟨confDir, "zebra", by simp [Path.IsInside], rfl⟩

theorem isConfigFile_speakerConfigFile (confDir : Path) :
    IsConfigFile (confDir.join speakerConfigFile) :=
  ⟨confDir, "quagga-sdn", by simp [Path.IsInside], rfl⟩

/-- Every daemon of a network of the lab is configured by such a file. -/
theorem IsLaidOut.isConfigFile (h : n.IsLaidOut) {d : Daemon} (hd : d ∈ n.daemons q) :
    IsConfigFile d.config := by
  obtain ⟨nodes, s, confDir, hspeaker, hrouters⟩ := h.exists_nodes
  obtain ⟨r, hr, kind, rfl⟩ := exists_ofRouter hd
  rcases List.mem_append.1 hr with hr | hr
  · obtain ⟨m, -, interfaces, route, rfl⟩ := hrouters r hr
    cases kind with
    | zebra => exact isConfigFile_zebraConfigFile confDir
    | bgpd => exact isConfigFile_routerConfigFile confDir m.index
  · obtain rfl := (List.mem_singleton.1 hr).trans hspeaker
    cases kind with
    | zebra => exact isConfigFile_zebraConfigFile confDir
    | bgpd => exact isConfigFile_speakerConfigFile confDir

/-- The start command of a daemon in a network of the lab names the file of its process. -/
theorem IsLaidOut.argBehind?_startCommand (h : n.IsLaidOut) {d : Daemon} (hd : d ∈ n.daemons q) :
    HostCommand.argBehind? "-i" d.startCommand.args = some d.pidFile.text := by
  apply Daemon.argBehind?_startCommand
  · obtain ⟨confDir, stem, hinside, heq⟩ := h.isConfigFile hd
    rw [heq]
    exact confDir.text_join_append_ne hinside (by decide)
  · obtain ⟨r, -, kind, rfl⟩ := exists_ofRouter hd
    exact q.runDir.text_join_append_ne (Daemon.isInside_apiSocket r.name) (by decide)

/-- How the daemons of a network are told apart, and what is carried out for them. -/
structure ToldApart (n : EmulatedNetwork) (ds : List Daemon) : Prop where
  /-- Every router in its order, and the speaker last, has zebra and directly behind it bgpd. -/
  in_order : ds.map (fun d => (d.router, d.kind)) =
    (n.routers ++ [n.speaker]).flatMap fun r => [(r.name, .zebra), (r.name, .bgpd)]
  /-- The name of a router tells it from all others, and from the speaker. -/
  isNamed : n.IsNamed
  /-- A socket is shared by the daemons of one router, and by no others. -/
  apiSocket_eq_iff : ∀ d ∈ ds, ∀ d' ∈ ds, d.apiSocket = d'.apiSocket ↔ d.router = d'.router
  /-- No two daemons keep the number of their process in one file. -/
  pidFile_nodup : (ds.map Daemon.pidFile).Nodup
  /-- A daemon is started and stopped by one executor and on one host, its router. Commands for routers
  without a namespace, and for no others, stay in the namespace of this machine. -/
  same_place : ∀ d ∈ ds,
    d.stopping.executor = d.starting.executor ∧
      (d.starting.executor = .root ↔ d.inNamespace = false) ∧
      d.starting.router = d.router ∧ d.stopping.router = d.router
  /-- A daemon is stopped through a file that the start command of this daemon names as that of its
  process, and that the start command of no other daemon does. -/
  stops_started : ∀ d ∈ ds, ∃ file, d.stopping.command = ⟨"pkill", ["-F", file]⟩ ∧
    ∀ d' ∈ ds, HostCommand.argBehind? "-i" d'.starting.command.args = some file ↔ d' = d

/-- In every network of the lab and for all places of the programs and of their files, a daemon is
stopped through the file in which it keeps the number of its own process. -/
theorem daemons_told_apart (h : n.IsLaidOut) (q : QuaggaSettings) : n.ToldApart (n.daemons q) where
  in_order := by
    rw [daemons, List.map_flatMap]
    rfl
  isNamed := h.isNamed
  apiSocket_eq_iff d hd d' hd' := by
    obtain ⟨r, -, kind, rfl⟩ := exists_ofRouter hd
    obtain ⟨r', -, kind', rfl⟩ := exists_ofRouter hd'
    exact Daemon.apiSocket_ofRouter_inj
  pidFile_nodup := h.isNamed.pidFile_nodup q
  same_place d _ := by
    refine ⟨rfl, ?_, rfl, rfl⟩
    cases hspace : d.inNamespace <;> simp [Daemon.starting, Daemon.executor, hspace]
  stops_started d hd := by
    refine ⟨d.pidFile.text, rfl, fun d' hd' => ?_⟩
    rw [Daemon.starting, h.argBehind?_startCommand hd', Option.some_inj]
    constructor
    · intro htext
      exact List.inj_on_of_nodup_map (h.isNamed.pidFile_nodup q) hd' hd (congrArg Path.mk htext)
    · rintro rfl
      rfl

/-- In the tutorial a daemon of the first router is stopped in the namespace of this router, and one of
the speaker is not. -/
theorem daemons_told_apart_tutorial :
    ∃ n d d', tutorial .default ⟨"conf"⟩ = .ok n ∧ (n.daemons {})[1]? = some d ∧
      (n.daemons {})[11]? = some d' ∧
      d.stopping = ⟨.namespaced, "r1", ⟨"pkill", ["-F", "/var/run/quagga/bgpdr1.pid"]⟩⟩ ∧
      d'.stopping = ⟨.root, "bgp", ⟨"pkill", ["-F", "/var/run/quagga/bgpdbgp.pid"]⟩⟩ ∧
      n.ToldApart (n.daemons {}) := by
  have hstops : (tutorial .default ⟨"conf"⟩).map (fun n =>
      (((n.daemons {})[1]?.map Daemon.stopping), ((n.daemons {})[11]?.map Daemon.stopping))) =
      .ok (some ⟨.namespaced, "r1", ⟨"pkill", ["-F", "/var/run/quagga/bgpdr1.pid"]⟩⟩,
        some ⟨.root, "bgp", ⟨"pkill", ["-F", "/var/run/quagga/bgpdbgp.pid"]⟩⟩) := by
    decide +kernel
  obtain ⟨n, hn, hpair⟩ := ok_of_map hstops
  obtain ⟨hrouter, hspeaker⟩ := Prod.mk.inj hpair
  obtain ⟨d, hd, hstop⟩ := Option.map_eq_some_iff.1 hrouter.symm
  obtain ⟨d', hd', hstop'⟩ := Option.map_eq_some_iff.1 hspeaker.symm
  exact ⟨n, d, d', hn, hd, hd', hstop, hstop', daemons_told_apart (.tutorial hn) {}⟩

end EmulatedNetwork

end BackboneLab
