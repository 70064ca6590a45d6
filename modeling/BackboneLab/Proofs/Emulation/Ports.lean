import BackboneLab.Proofs.Emulation.Agreement
import BackboneLab.Proofs.Emulation.Links

/-!
# The ports of the switches

The ports of a switch are taken by the links of a network in their order, and the controller is told a
port by its number alone. The links of the nodes come before that of the speaker, and this one before
those of the cables, so the router of a switch is on its first port, and the speaker on the second one of
its own switch (`EmulatedNetwork.attached_ofPlan`). The main statement is `ports_match_links`.
-/

namespace BackboneLab

/-- The other end of a link, seen from a part. A link from a part to itself is seen twice. -/
def Link.oppositeOf (name : String) (l : Link) : List String :=
  (if l.a = name then [l.b] else []) ++ if l.b = name then [l.a] else []

theorem Link.mem_oppositeOf {name x : String} {l : Link} :
    x ∈ l.oppositeOf name ↔ l.a = name ∧ x = l.b ∨ l.b = name ∧ x = l.a := by
  rw [oppositeOf, List.mem_append]
  split <;> split <;> simp_all

/-- A port of a switch, in the notation of the controller. -/
def Switch.port (s : Switch) (number : Nat) : String := "of:" ++ s.datapath ++ "/" ++ decimal number

namespace EmulatedNetwork

/-- What is attached to a part, in the order of its ports: every mention of the part in a link takes the
next port. -/
def attached (n : EmulatedNetwork) (name : String) : List String :=
  n.links.flatMap (Link.oppositeOf name)

/-- A port in the notation of the controller is one at which a part is attached to a switch. The ports of
a switch are counted from one. -/
def IsPortOf (n : EmulatedNetwork) (point name : String) : Prop :=
  ∃ switch ∈ n.switches, ∃ k,
    (n.attached switch.name)[k]? = some name ∧ point = switch.port (k + 1)

/-! ## What a link attaches to a switch -/

theorem routerName_ne_switchName (i j : Nat) : routerName i ≠ switchName j := ne_of_head?_ne (by simp)

theorem hostName_ne_switchName (i j : Nat) : hostName i ≠ switchName j := ne_of_head?_ne (by simp)

theorem speakerName_ne_switchName (i : Nat) : speakerName ≠ switchName i := ne_of_head?_ne (by simp)

theorem switchName_inj {i j : Nat} : switchName i = switchName j ↔ i = j :=
  ⟨switchName_injective, fun h => h ▸ rfl⟩

/-- Of the two links of a node, the one of its switch attaches the router. -/
theorem oppositeOf_nodeLinks (m : NodeAddresses) (i : Nat) :
    (nodeLinks m).flatMap (Link.oppositeOf (switchName i)) =
      if m.index = i then [routerName i] else [] := by
  have hlinks : nodeLinks m = [⟨routerName m.index, switchName m.index⟩,
    ⟨routerName m.index, hostName m.index⟩] := rfl
  rw [hlinks]
  simp only [List.flatMap_cons, List.flatMap_nil, Link.oppositeOf, routerName_ne_switchName,
    hostName_ne_switchName, switchName_inj, if_false, List.nil_append, List.append_nil]
  split
  next h => rw [h]
  next => rfl

theorem oppositeOf_speakerLink (s : Settings) (i : Nat) :
    (speakerLink s).oppositeOf (switchName i) =
      if s.speaker.switch.toNat = i then [speakerName] else [] := by
  simp only [speakerLink, Link.oppositeOf, speakerName_ne_switchName, switchName_inj, if_false,
    List.nil_append]

/-- The link of a cable attaches only switches. -/
theorem oppositeOf_cableLink {t : Topology} {l : Link} (hl : l ∈ t.cables.toList.filterMap (cableLink? t))
    {name x : String} (hx : x ∈ l.oppositeOf name) : x.toList.head? = some 's' := by
  obtain ⟨-, -, j, k, -, -, -, -, rfl⟩ := mem_cableLinks_iff.1 hl
  rcases Link.mem_oppositeOf.1 hx with ⟨-, rfl⟩ | ⟨-, rfl⟩
  · rw [switchLink, toList_switchName, List.head?_cons]
  · rw [switchLink, toList_switchName, List.head?_cons]

/-! ## The ports of a switch -/

/-- Among nodes with different indices, one with a given index is singled out. -/
theorem flatMap_index {nodes : List NodeAddresses} (hnodup : (nodes.map NodeAddresses.index).Nodup)
    {m : NodeAddresses} (hm : m ∈ nodes) (x : String) :
    (nodes.flatMap fun m' => if m'.index = m.index then [x] else []) = [x] := by
  obtain ⟨before, after, rfl⟩ := List.append_of_mem hm
  rw [List.map_append, List.map_cons, List.nodup_middle, List.nodup_cons, List.mem_append,
    not_or] at hnodup
  obtain ⟨⟨hbefore, hafter⟩, -⟩ := hnodup
  have hother : ∀ nodes : List NodeAddresses, m.index ∉ nodes.map NodeAddresses.index →
      (nodes.flatMap fun m' => if m'.index = m.index then [x] else []) = [] := by
    intro nodes hnodes
    refine List.flatMap_eq_nil_iff.2 fun m' hm' => if_neg fun heq => hnodes ?_
    exact heq ▸ List.mem_map_of_mem hm'
  rw [List.flatMap_append, List.flatMap_cons, hother before hbefore, hother after hafter, if_pos rfl,
    List.nil_append, List.append_nil]

section
variable {p : AddressPlan} {s : Settings} {names : List String}

/-- The ports of the switch of a node: the first one is that of the router, the next one that of the
speaker if the speaker is attached to this switch, and all others lead to switches. -/
theorem attached_ofPlan (h : AddressPlan.Lists s.reserved names p.nodes) (t : Topology)
    (confDir : Path) {m : NodeAddresses} (hm : m ∈ p.nodes) : ∃ switches : List String,
      (ofPlan p t s confDir).attached (switchName m.index) =
        routerName m.index :: ((if s.speaker.switch.toNat = m.index then [speakerName] else []) ++
          switches) ∧
      ∀ x ∈ switches, x.toList.head? = some 's' := by
  refine ⟨(t.cables.toList.filterMap (cableLink? t)).flatMap (Link.oppositeOf (switchName m.index)),
    ?_, fun x hx => ?_⟩
  · have hnodes : (p.nodes.flatMap nodeLinks).flatMap (Link.oppositeOf (switchName m.index)) =
        [routerName m.index] := by
      rw [List.flatMap_assoc]
      simp only [oppositeOf_nodeLinks]
      exact flatMap_index h.index_nodup hm _
    rw [attached, ofPlan, List.flatMap_append, List.flatMap_cons, hnodes, oppositeOf_speakerLink,
      List.singleton_append]
  · obtain ⟨l, hl, hx⟩ := List.mem_flatMap.1 hx
    exact oppositeOf_cableLink hl hx

/-- A port of the switch of a node is that of what is attached there. -/
theorem isPortOf_ofPlan (t : Topology) (s : Settings) (confDir : Path) {m : NodeAddresses}
    (hm : m ∈ p.nodes) {number : Nat} {name : String} :
    (ofPlan p t s confDir).IsPortOf (connectPoint (datapathId m.index) number) name ↔
      0 < number ∧
        ((ofPlan p t s confDir).attached (switchName m.index))[number - 1]? = some name := by
  constructor
  · rintro ⟨switch, hswitch, k, hname, hpoint⟩
    obtain ⟨m', -, rfl⟩ := List.mem_map.1 hswitch
    obtain ⟨hid, rfl⟩ := connectPoint_inj.1 hpoint
    rw [Nat.add_left_cancel hid]
    exact ⟨Nat.succ_pos k, hname⟩
  · rintro ⟨hpos, hname⟩
    refine ⟨switchOf m.index, List.mem_map.2 ⟨m, hm, rfl⟩, number - 1, hname, ?_⟩
    rw [Nat.sub_add_cancel hpos]
    rfl

/-- The first port of a switch is that of the router, and of nothing else. -/
theorem isPortOf_accessPoint (h : AddressPlan.Lists s.reserved names p.nodes) (t : Topology)
    (confDir : Path) {m : NodeAddresses} (hm : m ∈ p.nodes) {name : String} :
    (ofPlan p t s confDir).IsPortOf m.accessPoint name ↔ name = routerName m.index := by
  obtain ⟨switches, hattached, -⟩ := attached_ofPlan h t confDir hm
  rw [NodeAddresses.accessPoint, NodeAddresses.datapath, isPortOf_ofPlan t s confDir hm, hattached]
  simp [eq_comm]

/-- The speaker is on the second port of its switch, and on no other. -/
theorem isPortOf_speakerName (h : AddressPlan.Lists s.reserved names p.nodes) (t : Topology)
    (confDir : Path) {m : NodeAddresses} (hm : m ∈ p.nodes)
    (hs : s.speaker.switch.toNat = m.index) {number : Nat} :
    (ofPlan p t s confDir).IsPortOf (connectPoint (datapathId m.index) number) speakerName ↔
      number = 2 := by
  obtain ⟨switches, hattached, hswitches⟩ := attached_ofPlan h t confDir hm
  rw [isPortOf_ofPlan t s confDir hm, hattached, if_pos hs, List.singleton_append]
  match number with
  | 0 => simp
  | 1 => simpa using (ne_of_head?_ne (by simp) : routerName m.index ≠ speakerName)
  | 2 => simp
  | k + 3 =>
    have hother : switches[k]? ≠ some speakerName := fun hk =>
      absurd (hswitches _ (List.mem_of_getElem? hk)) (by simp)
    simpa using hother

/-- The settings attach the speaker to a port of the switch of a node. -/
theorem speakerPort_eq {m : NodeAddresses} (hs : s.speaker.switch.toNat = m.index) :
    NetworkConfig.speakerPort s = connectPoint (datapathId m.index) s.speaker.port.toNat :=
  congrArg (fun i => connectPoint (datapathId i) s.speaker.port.toNat) hs

theorem isPortOf_speakerPort (h : AddressPlan.Lists s.reserved names p.nodes) (t : Topology)
    (confDir : Path) {m : NodeAddresses} (hm : m ∈ p.nodes)
    (hs : s.speaker.switch.toNat = m.index) :
    (ofPlan p t s confDir).IsPortOf (NetworkConfig.speakerPort s) speakerName ↔
      s.speaker.port = 2 := by
  have hport : s.speaker.port.toNat = (2 : UInt32).toNat ↔ s.speaker.port = 2 := UInt32.toNat_inj
  rw [speakerPort_eq hs, ← hport]
  exact isPortOf_speakerName h t confDir hm hs

end

end EmulatedNetwork

/-- The ports of the controller's configuration are those that the links of the network take. The router of
every node is the only part on the first port of its switch, where the configuration has the interface of
the speaker towards it, and the speaker is on the second port of its switch, so that the port to which
the configuration attaches it is that of the speaker exactly if the settings say so. -/
theorem ports_match_links {t : Topology} {s : Settings} {confDir : Path} {a : Artifacts}
    {n : EmulatedNetwork} (ha : compile t s = .ok a)
    (hn : EmulatedNetwork.ofTopology t s confDir = .ok n)
    (hs : EmulatedNetwork.HasSpeakerSwitch t s) :
    ∃ (xs : List NodeParts) (text : String) (c : NetworkConfig), xs.length = t.size ∧
      n.ConsistsOf s.speaker.mac xs ∧
      a.files.find? networkConfigFile = some text ∧ ofJson? text = some c ∧
      c.Describes s.speaker.mac xs ∧
      (∀ k x, xs[k]? = some x →
        x.router.name = EmulatedNetwork.routerName (k + 1) ∧
        x.switch.name = EmulatedNetwork.switchName (k + 1) ∧
        (n.attached x.switch.name)[0]? = some x.router.name ∧
        ∀ name, n.IsPortOf x.accessPoint name ↔ name = x.router.name) ∧
      ∃ x speaker, xs[s.speaker.switch.toNat - 1]? = some x ∧ c.speakers = [speaker] ∧
        (n.attached x.switch.name)[1]? = some n.speaker.name ∧
        speaker.connectPoint = x.switch.port s.speaker.port.toNat ∧
        (n.IsPortOf speaker.connectPoint n.speaker.name ↔ s.speaker.port = 2) := by
  obtain ⟨p, hp, rfl⟩ := compile_eq_ok ha
  obtain ⟨p', hp', rfl⟩ := EmulatedNetwork.ofTopology_eq_ok hn
  obtain rfl : p = p' := Except.ok.inj (hp.symm.trans hp')
  have hlists := AddressPlan.ofNames_lists hp
  have hindex : s.speaker.switch.toNat - 1 < p.nodes.length := by
    have := hlists.length_eq
    have := hs.1
    have := hs.2
    simp only [Topology.size] at this
    omega
  have hplace : p.nodes[s.speaker.switch.toNat - 1]? = some p.nodes[s.speaker.switch.toNat - 1] :=
    List.getElem?_eq_getElem hindex
  generalize p.nodes[s.speaker.switch.toNat - 1] = m at hplace
  have hm : m ∈ p.nodes := List.mem_of_getElem? hplace
  have hswitch : s.speaker.switch.toNat = m.index := by
    rw [hlists.index_eq hplace, Nat.sub_add_cancel hs.1]
  refine ⟨p.nodes.map (NodeAddresses.parts confDir), _, _, ?_,
    EmulatedNetwork.ofPlan_consistsOf hlists t confDir,
    (Artifacts.filesHold_ofPlan hlists.index_nodup s).network,
    (NetworkConfig.kept _).ofJson?_toPrettyJson, NetworkConfig.ofNodes_describes hlists confDir, ?_,
    m.parts confDir, _, ?_, rfl, ?_, ?_, ?_⟩
  · rw [List.length_map, hlists.length_eq]
    rfl
  · intro k x hx
    rw [List.getElem?_map, Option.map_eq_some_iff] at hx
    obtain ⟨m, hk, rfl⟩ := hx
    have hm : m ∈ p.nodes := List.mem_of_getElem? hk
    obtain ⟨switches, hattached, -⟩ := EmulatedNetwork.attached_ofPlan hlists t confDir hm
    refine ⟨?_, ?_, ?_, fun name => ?_⟩
    · rw [← hlists.index_eq hk]
      rfl
    · rw [← hlists.index_eq hk]
      rfl
    · exact hattached ▸ rfl
    · rw [m.accessPoint_parts confDir]
      exact EmulatedNetwork.isPortOf_accessPoint hlists t confDir hm
  · rw [List.getElem?_map, hplace, Option.map_some]
  · obtain ⟨switches, hattached, -⟩ := EmulatedNetwork.attached_ofPlan hlists t confDir hm
    rw [if_pos hswitch] at hattached
    exact hattached ▸ rfl
  · exact EmulatedNetwork.speakerPort_eq hswitch
  · exact EmulatedNetwork.isPortOf_speakerPort hlists t confDir hm hswitch

/-- A backbone with a node that is linked with itself and to whose switch the speaker is attached. -/
theorem ports_match_links_looped :
    let t : Topology := ⟨.ofList ["Dallas", "Denver", "Seattle"],
      .ofList [(⟨"Seattle", "Dallas"⟩, 1), (⟨"Dallas", "Denver"⟩, 1), (⟨"Seattle", "Seattle"⟩, 1)],
      by decide, by decide⟩
    ∃ n c speaker, EmulatedNetwork.ofTopology t .default ⟨"configs"⟩ = .ok n ∧
      n.attached "s3" = ["r3", "bgp", "s1", "s3", "s3"] ∧ NetworkConfig.speakers c = [speaker] ∧
      n.IsPortOf speaker.connectPoint n.speaker.name := by
  intro t
  obtain ⟨a, ha⟩ : ∃ a, compile t .default = .ok a := ⟨_, rfl⟩
  obtain ⟨n, hn, hattached⟩ : ∃ n, EmulatedNetwork.ofTopology t .default ⟨"configs"⟩ = .ok n ∧
      n.attached "s3" = ["r3", "bgp", "s1", "s3", "s3"] := ⟨_, rfl, by decide⟩
  obtain ⟨xs, text, c, -, -, -, -, -, -, x, speaker, -, hspeakers, -, -, hport⟩ :=
    ports_match_links ha hn (by decide)
  exact ⟨n, c, speaker, hn, hattached, hspeakers, hport.2 rfl⟩

end BackboneLab
