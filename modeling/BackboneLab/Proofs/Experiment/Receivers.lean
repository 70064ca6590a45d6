import BackboneLab.Proofs.Emulation.Hosts
import BackboneLab.Proofs.Experiment.Parts
import BackboneLab.Proofs.Traffic.Generator
import BackboneLab.Rehearsal.Script

/-!
# Every client finds its receiver

The commands that receive traffic are derived from the hosts of a network, and those that send it from
the steps of a schedule. `ReceiversServe` says how the two fit together, and `receivers_serve_clients`
that they do so in every network of the lab, on all hosts of which receivers can be started.
-/

namespace BackboneLab

/-! ## Commands on one host -/

/-- The command that a call has started in the background of a host. -/
def Call.spawnedOn? (host : String) : Call → Option HostCommand
  | .spawn name command (.ok _) => if name = host then some command else none
  | _ => none

/-- The commands that were started in the background of a host. -/
def spawnedOn (host : String) (cs : List Call) : List HostCommand := cs.filterMap (Call.spawnedOn? host)

theorem spawnedOn_append (host : String) (cs cs' : List Call) :
    spawnedOn host (cs ++ cs') = spawnedOn host cs ++ spawnedOn host cs' :=
  List.filterMap_append ..

theorem Call.spawnAll_append (cs cs' : List (String × HostCommand)) :
    spawnAll (cs ++ cs') = spawnAll cs ++ spawnAll cs' :=
  List.map_append ..

theorem spawnedOn_self (host : String) (cs : List HostCommand) :
    spawnedOn host (Call.spawnAll (cs.map (host, ·))) = cs := by
  induction cs with
  | nil => rfl
  | cons c cs ih =>
    have hfirst : Call.spawnedOn? host (.spawn host c (.ok ())) = some c := if_pos rfl
    exact (List.filterMap_cons_some hfirst).trans (congrArg (c :: ·) ih)

theorem spawnedOn_of_ne {host name : String} (h : name ≠ host) (cs : List HostCommand) :
    spawnedOn host (Call.spawnAll (cs.map (name, ·))) = [] := by
  induction cs with
  | nil => rfl
  | cons c cs ih =>
    have hfirst : Call.spawnedOn? host (.spawn name c (.ok ())) = none := if_neg h
    exact (List.filterMap_cons_none hfirst).trans ih

section
variable {hosts : List Host} (commands : Host → List HostCommand)

theorem spawnedOn_of_not_mem {name : String} (h : name ∉ hosts.map Host.name) :
    spawnedOn name (Call.spawnAll (hosts.flatMap fun h => (commands h).map (h.name, ·))) = [] := by
  induction hosts with
  | nil => rfl
  | cons host hosts ih =>
    rw [List.map_cons, List.mem_cons, not_or] at h
    rw [List.flatMap_cons, Call.spawnAll_append, spawnedOn_append, spawnedOn_of_ne (Ne.symm h.1),
      ih h.2, List.append_nil]

/-- What is started on every host is started on the one with the name, if names are told apart. -/
theorem spawnedOn_of_mem (hnodup : (hosts.map Host.name).Nodup) {host : Host} (h : host ∈ hosts) :
    spawnedOn host.name (Call.spawnAll (hosts.flatMap fun h => (commands h).map (h.name, ·))) =
      commands host := by
  induction hosts with
  | nil => cases h
  | cons first hosts ih =>
    obtain ⟨hfirst, hrest⟩ := List.nodup_cons.1 hnodup
    rw [List.flatMap_cons, Call.spawnAll_append, spawnedOn_append]
    rcases List.mem_cons.1 h with rfl | h
    · rw [spawnedOn_self, spawnedOn_of_not_mem commands hfirst, List.append_nil]
    · have hne : first.name ≠ host.name := fun heq => hfirst (heq ▸ List.mem_map_of_mem h)
      rw [spawnedOn_of_ne hne, ih hrest h, List.nil_append]

end

/-! ## Receivers of a network -/

namespace EmulatedNetwork

variable {n : EmulatedNetwork} {g : Generator}

/-- What is started on a host are its receivers. -/
theorem HasDistinctHosts.spawnedOn_receivers (h : n.HasDistinctHosts) {host : Host}
    (hhost : host ∈ n.hosts) :
    spawnedOn host.name (Call.spawnAll (n.receivers g)) =
      g.receiverCommands host.address n.hostAddrs :=
  spawnedOn_of_mem (fun h => g.receiverCommands h.address n.hostAddrs) h.name_nodup hhost

theorem HasDistinctHosts.length_otherHosts (h : n.HasDistinctHosts) {a : Ipv4} (ha : a ∈ n.hostAddrs) :
    (n.hostAddrs.filter (· ≠ a)).length = n.hosts.length - 1 := by
  have hothers : n.hostAddrs.filter (· ≠ a) = n.hostAddrs.erase a := by
    rw [h.hostAddrs_nodup.erase_eq_filter]
    exact List.filter_congr fun b _ => by simp [bne, beq_eq_decide]
  rw [hothers, List.length_erase_of_mem ha, hostAddrs, List.length_map]

/-- How many receivers a host has. -/
def receiversPerHost (n : EmulatedNetwork) : Generator → Nat
  | .iperf3 | .iperf2 => n.hosts.length - 1
  | .ditg => 1

theorem HasDistinctHosts.length_receiverCommands (h : n.HasDistinctHosts) {a : Ipv4}
    (ha : a ∈ n.hostAddrs) :
    (g.receiverCommands a n.hostAddrs).length = n.receiversPerHost g := by
  cases g with
  | iperf3 => exact (List.length_map ..).trans (h.length_otherHosts ha)
  | iperf2 => exact (List.length_map ..).trans (h.length_otherHosts ha)
  | ditg => rfl

/-- All hosts have the same number of receivers. -/
theorem HasDistinctHosts.length_receivers (h : n.HasDistinctHosts) :
    (n.receivers g).length = n.hosts.length * n.receiversPerHost g := by
  have hlengths : n.hosts.map (fun h => ((g.receiverCommands h.address n.hostAddrs).map (h.name, ·)).length) =
      n.hosts.map fun _ => n.receiversPerHost g :=
    List.map_congr_left fun host hhost => by
      rw [List.length_map, h.length_receiverCommands (List.mem_map_of_mem hhost)]
  rw [receivers, List.length_flatMap, hlengths, List.map_const', List.sum_replicate_nat]

/-- The ports on which a host listens are told apart, and none of them is its own. -/
theorem HasDistinctHosts.ports (h : n.HasDistinctHosts) {a : Ipv4} (ha : a ∈ n.hostAddrs) :
    ((n.hostAddrs.filter (· ≠ a)).map Generator.portFor).Nodup ∧
      Generator.portFor a ∉ (n.hostAddrs.filter (· ≠ a)).map Generator.portFor := by
  constructor
  · refine (h.hostAddrs_nodup.filter _).map_on fun b hb c hc heq => ?_
    exact h.portFor_inj (List.mem_filter.1 hb).1 (List.mem_filter.1 hc).1 heq
  · intro hmem
    obtain ⟨b, hb, hport⟩ := List.mem_map.1 hmem
    obtain ⟨hb, hne⟩ := List.mem_filter.1 hb
    exact of_decide_eq_true hne (h.portFor_inj hb ha hport)

end EmulatedNetwork

/-! ## Starting the receivers -/

/-- Commands can be started in the background of all hosts. -/
def Testbed.Spawns {σ : Type} (t : Testbed σ) : Prop :=
  ∀ host command scene, (t.spawn host command scene).1 = .ok ()

/-- Commands that can be started are started in their order and counted. -/
theorem Run.run_spawnAll {σ : Type} {t : Testbed σ} (h : t.Spawns) (cs : List (String × HostCommand))
    (q : Progress σ) :
    ∃ q', (spawnAll t cs).run q = (.ok cs.length, q') ∧ t.Leads q (Call.spawnAll cs) q' := by
  rcases hrun : (spawnAll t cs).run q with ⟨r, q'⟩
  rcases of_spawnAll hrun with ⟨rfl, hleads⟩ | ⟨before, c, after, f, rfl, rfl, hleads⟩
  · exact ⟨q', rfl, hleads⟩
  · obtain ⟨x, -, hfails⟩ := hleads.asked.of_append
    cases hfails with
    | @cons _ _ _ y _ answers _ =>
      have hspawned : t.spawn c.1 c.2 x = (.error f, y) := answers
      cases (h c.1 c.2 x).symm.trans (congrArg Prod.fst hspawned)

/-- The receivers that were started fit to the clients of a network. -/
structure ReceiversServe (n : EmulatedNetwork) (g : Generator) (cs : List Call) : Prop where
  /-- A client asks for a port of its destination on which exactly one receiver listens. -/
  client_served : g ≠ .ditg → ∀ source ∈ n.hosts, ∀ destination ∈ n.hosts, source ≠ destination →
    ∀ step : TrafficStep, step.destination = destination.address →
      ∃ port, (g.clientCommand source.address step).server? = some ⟨destination.address, port⟩ ∧
        (spawnedOn destination.name cs).countP (·.port? == some port) = 1
  /-- Every receiver listens on a port, and no two receivers of a host on the same one. -/
  port_nodup : g ≠ .ditg → ∀ host ∈ n.hosts,
    none ∉ (spawnedOn host.name cs).map HostCommand.port? ∧
      ((spawnedOn host.name cs).map HostCommand.port?).Nodup
  /-- No host listens for itself. -/
  own_port_free : g ≠ .ditg → ∀ host ∈ n.hosts,
    some (Generator.portFor host.address) ∉ (spawnedOn host.name cs).map HostCommand.port?
  /-- Where one receiver serves all clients, every host has one. -/
  shared : g = .ditg → ∀ host ∈ n.hosts, spawnedOn host.name cs = [.ofProgram "ITGRecv"]

/-- The receivers of a network whose hosts can be told apart fit to its clients. -/
theorem EmulatedNetwork.HasDistinctHosts.receiversServe {n : EmulatedNetwork} (h : n.HasDistinctHosts)
    (g : Generator) : ReceiversServe n g (Call.spawnAll (n.receivers g)) := by
  have hports (hg : g ≠ .ditg) {host : Host} (hhost : host ∈ n.hosts) :
      (spawnedOn host.name (Call.spawnAll (n.receivers g))).map HostCommand.port? =
        ((n.hostAddrs.filter (· ≠ host.address)).map Generator.portFor).map some := by
    rw [h.spawnedOn_receivers hhost, Generator.map_port?_receiverCommands hg]
  have hnodup (hg : g ≠ .ditg) {host : Host} (hhost : host ∈ n.hosts) :
      ((spawnedOn host.name (Call.spawnAll (n.receivers g))).map HostCommand.port?).Nodup := by
    rw [hports hg hhost]
    exact (h.ports (List.mem_map_of_mem hhost)).1.map fun _ _ => Option.some.inj
  constructor
  case client_served =>
    intro hg source hsource destination hdestination hne step hstep
    refine ⟨Generator.portFor source.address, ?_, ?_⟩
    · rw [Generator.server?_clientCommand hg, hstep]
    · have hother : source.address ≠ destination.address := fun heq =>
        hne (List.inj_on_of_nodup_map h.hostAddrs_nodup hsource hdestination heq)
      have hmem : some (Generator.portFor source.address) ∈
          (spawnedOn destination.name (Call.spawnAll (n.receivers g))).map HostCommand.port? := by
        rw [hports hg hdestination]
        refine List.mem_map_of_mem (List.mem_map_of_mem (List.mem_filter.2 ⟨?_, decide_eq_true hother⟩))
        exact List.mem_map_of_mem hsource
      have hcount := List.count_eq_one_of_mem (hnodup hg hdestination) hmem
      rw [List.count_eq_countP, List.countP_map] at hcount
      exact hcount
  case port_nodup =>
    intro hg host hhost
    refine ⟨?_, hnodup hg hhost⟩
    rw [hports hg hhost]
    simp
  case own_port_free =>
    intro hg host hhost hmem
    rw [hports hg hhost] at hmem
    obtain ⟨port, hport, heq⟩ := List.mem_map.1 hmem
    cases heq
    exact (h.ports (List.mem_map_of_mem hhost)).2 hport
  case shared =>
    intro hg host hhost
    rw [h.spawnedOn_receivers hhost, hg]
    rfl

/-- Every client finds its receiver. Wherever commands can be started, the hosts of a network of the lab are
asked to start its receivers and nothing else, the receivers are counted, and they fit to the clients. -/
theorem receivers_serve_clients {σ : Type} {t : Testbed σ} (ht : t.Spawns) {n : EmulatedNetwork}
    (hn : n.IsLaidOut) (g : Generator) (q : Progress σ) :
    ∃ q' cs, (Run.spawnAll t (n.receivers g)).run q = (.ok cs.length, q') ∧ t.Leads q cs q' ∧
      (∀ c ∈ cs, ∃ host ∈ n.hosts, ∃ command, c = .spawn host.name command (.ok ())) ∧
      ReceiversServe n g cs ∧
      cs.length =
        match g with
        | .iperf3 | .iperf2 => n.hosts.length * (n.hosts.length - 1)
        | .ditg => n.hosts.length := by
  obtain ⟨q', hrun, hleads⟩ := Run.run_spawnAll ht (n.receivers g) q
  have hdistinct := hn.distinctHosts
  have hlength : (Call.spawnAll (n.receivers g)).length = n.hosts.length * n.receiversPerHost g := by
    rw [Call.spawnAll, List.length_map, hdistinct.length_receivers]
  refine ⟨q', Call.spawnAll (n.receivers g), ?_, hleads, ?_, hdistinct.receiversServe g, ?_⟩
  · rw [hrun, Call.spawnAll, List.length_map]
  · intro c hc
    obtain ⟨receiver, hreceiver, rfl⟩ := List.mem_map.1 hc
    obtain ⟨host, hhost, hmem⟩ := List.mem_flatMap.1 hreceiver
    obtain ⟨command, -, rfl⟩ := List.mem_map.1 hmem
    exact ⟨host, hhost, command, rfl⟩
  · rw [hlength]
    cases g with
    | iperf3 => rfl
    | iperf2 => rfl
    | ditg => exact Nat.mul_one _

/-- The six hosts of the tutorial, in a rehearsal in which everything succeeds: in the end the receivers are
what the log of all calls holds. -/
theorem receivers_serve_clients_tutorial :
    let script : Script := {}
    ∃ n q', EmulatedNetwork.tutorial .default ⟨"conf"⟩ = .ok n ∧ script.testbed.logged.Spawns ∧
      (Run.spawnAll script.testbed.logged (n.receivers .iperf2)).run
        (.ofScene ⟨.empty, script.initial, []⟩) = (.ok 30, q') ∧
      q'.scene.systems.2.length = 30 ∧ ReceiversServe n .iperf2 q'.scene.systems.2 := by
  intro script
  let n := (EmulatedNetwork.tutorial .default ⟨"conf"⟩).toOption.get!
  have hn : EmulatedNetwork.tutorial .default ⟨"conf"⟩ = .ok n := by rfl
  have hspawns : script.testbed.logged.Spawns := fun _ _ _ => rfl
  obtain ⟨q', cs, hrun, hleads, -, hserve, hlength⟩ := receivers_serve_clients hspawns (.tutorial hn)
    .iperf2 (.ofScene ⟨.empty, script.initial, []⟩)
  have hthirty : cs.length = 30 := hlength
  have hlog : q'.scene.systems.2 = cs := hleads.asked.log
  rw [hthirty] at hrun
  rw [← hlog] at hthirty hserve
  exact ⟨n, q', hn, hspawns, hrun, hthirty, hserve⟩

end BackboneLab
