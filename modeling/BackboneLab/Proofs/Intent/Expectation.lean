import BackboneLab.Proofs.Backbone.AddressPlan
import BackboneLab.Proofs.Configuration.Announcements
import BackboneLab.Proofs.Configuration.Controller
import BackboneLab.Proofs.Configuration.FileSet
import BackboneLab.Proofs.Intent.Counting

/-!
# The expected intents are read back

How many intents to wait for is read from the files of a configured backbone: the peers from the
controller's configuration, and the networks from those of the routing daemons, of which the speaker's
announces none. `expectation_read_back` says what is read, in whatever order the files are.
-/

namespace BackboneLab

/-! ## Counting intents -/

/-- With one network for each of so many peers there is one intent for every ordered pair of them. -/
theorem expectedIntents_replicate (n : Nat) :
    expectedIntents n (List.replicate n 1) = 6 * n + n * (n - 1) := by
  rw [expectedIntents_eq_sum, List.sum_replicate_nat, List.map_replicate, List.sum_replicate_nat]
  simp only [Nat.mul_one, Nat.one_mul]

/-! ## Files that count -/

/-- The file of a router's configuration counts. -/
theorem isDaemonConfigFile_routerConfigFile (i : Nat) :
    IntentExpectation.isDaemonConfigFile (routerConfigFile i) = true := by
  have hname : (routerConfigFile i).toList =
      "quagga".toList ++ ((decimal i).toList ++ ".conf".toList) := by
    rw [routerConfigFile, String.toList_append, String.toList_append, List.append_assoc]
  have hline : '\n' ∉ "quagga".toList ++ ((decimal i).toList ++ ".conf".toList) :=
    hname ▸ not_mem_routerConfigFile rfl (by decide) i
  simp only [IntentExpectation.isDaemonConfigFile, hname, List.drop_left, Bool.and_eq_true,
    Bool.not_eq_true', List.isPrefixOf_iff_prefix, List.isSuffixOf_iff_suffix]
  refine ⟨⟨List.prefix_append _ _, List.suffix_append _ _⟩, ?_⟩
  rw [← Bool.not_eq_true, List.contains_iff_mem]
  exact hline

/-- The configurations of routing daemons that count among some files. -/
def FileSet.daemonConfigs (files : FileSet) : List String :=
  (files.entries.filter fun f => IntentExpectation.isDaemonConfigFile f.1).map (·.2)

/-- Of a configured backbone those of the routers and of the speaker count. -/
theorem Artifacts.daemonConfigs_files_perm {a : Artifacts} (h : (a.routerConfigs.map (·.1)).Nodup) :
    a.files.daemonConfigs.Perm
      (a.routerConfigs.map (fun c => textOfLines c.2) ++ [textOfLines a.speakerConfig]) := by
  have hrouters : (a.routerConfigs.map fun c => (routerConfigFile c.1, textOfLines c.2)).filter
      (fun f => IntentExpectation.isDaemonConfigFile f.1) =
        a.routerConfigs.map fun c => (routerConfigFile c.1, textOfLines c.2) := by
    refine List.filter_eq_self.2 fun f hf => ?_
    obtain ⟨c, -, rfl⟩ := List.mem_map.1 hf
    exact isDaemonConfigFile_routerConfigFile c.1
  have hspeaker : IntentExpectation.isDaemonConfigFile speakerConfigFile = true := by decide
  have hzebra : IntentExpectation.isDaemonConfigFile zebraConfigFile = false := by decide
  have hnetwork : IntentExpectation.isDaemonConfigFile networkConfigFile = false := by decide
  have hdisplay : IntentExpectation.isDaemonConfigFile displayFile = false := by decide
  have htexts : (a.texts.filter fun f => IntentExpectation.isDaemonConfigFile f.1).map (·.2) =
      a.routerConfigs.map (fun c => textOfLines c.2) ++ [textOfLines a.speakerConfig] := by
    rw [Artifacts.texts, List.filter_append, hrouters, List.map_append, List.map_map]
    simp only [List.filter_cons, List.filter_nil, hspeaker, hzebra, hnetwork, hdisplay]
    rfl
  rw [← htexts, FileSet.daemonConfigs, files_eq]
  exact ((OrderedMap.entries_ofList_perm (nodup_texts h)).filter _).map _

/-! ## Reading the expectation -/

/-- The configurations of a plan announce one network for every node, in whatever order they are. -/
theorem networks_of_perm {p : AddressPlan} {s : Settings} (hpassword : OneLine s.bgp.password)
    (hindices : (p.nodes.map NodeAddresses.index).Nodup) {configs : List String}
    (h : configs.Perm (Artifacts.ofPlan p s).files.daemonConfigs) :
    (configs.map countNetworks).filter (0 < ·) = List.replicate p.nodes.length 1 := by
  have hnames := Artifacts.nodup_routerConfigs hindices s
  have hrouters : ((Artifacts.ofPlan p s).routerConfigs.map fun c => textOfLines c.2).map
      countNetworks = List.replicate p.nodes.length 1 := by
    rw [Artifacts.ofPlan, List.map_map, List.map_map]
    refine List.eq_replicate_iff.2 ⟨List.length_map .., fun count hcount => ?_⟩
    obtain ⟨n, -, rfl⟩ := List.mem_map.1 hcount
    rw [Function.comp_apply, Function.comp_apply]
    exact countNetworks_routerConfig n hpassword
  have hspeaker : countNetworks (textOfLines (Artifacts.ofPlan p s).speakerConfig) = 0 :=
    countNetworks_speakerConfig p.nodes hpassword
  have hcounts := ((h.trans (Artifacts.daemonConfigs_files_perm hnames)).map countNetworks).filter
    (0 < ·)
  rw [List.map_append, hrouters, List.map_singleton, hspeaker, List.filter_append,
    List.filter_replicate_of_pos (by decide), List.filter_cons_of_neg (by decide), List.filter_nil,
    List.append_nil] at hcounts
  exact List.perm_replicate.1 hcounts

/-- The expected intents are read back from the files. For every backbone that can be configured there is
one peer and one announced network for every node, in whatever order the configurations of the daemons
are read. -/
theorem expectation_read_back {t : Topology} {s : Settings} {a : Artifacts} (h : compile t s = .ok a)
    (hpassword : '\n' ∉ s.bgp.password.toList) :
    ∃ text c, a.files.find? networkConfigFile = some text ∧ ofJson? text = some c ∧
      ∀ configs : List String, configs.Perm a.files.daemonConfigs →
        ∃ e, IntentExpectation.ofConfigs c configs = .ok e ∧ e.peers = t.names.length ∧
          e.networks = List.replicate t.names.length 1 ∧
          e.count = 6 * t.names.length + t.names.length * (t.names.length - 1) := by
  obtain ⟨p, hp, rfl⟩ := compile_eq_ok h
  have hlists := AddressPlan.ofNames_lists hp
  have hlength := hlists.length_eq
  have hfiles := Artifacts.filesHold_ofPlan hlists.index_nodup s
  refine ⟨toPrettyJson (NetworkConfig.ofNodes p.nodes s), .ofNodes p.nodes s, hfiles.network,
    (NetworkConfig.kept _).ofJson?_toPrettyJson, fun configs hconfigs => ?_⟩
  have hnetworks := networks_of_perm hpassword hlists.index_nodup hconfigs
  have hpeers : (NetworkConfig.ofNodes p.nodes s).peers? =
      some (p.nodes.map NodeAddresses.routerId) := rfl
  refine ⟨⟨t.names.length, List.replicate t.names.length 1⟩, ?_, rfl, rfl,
    expectedIntents_replicate _⟩
  rw [IntentExpectation.ofConfigs, hpeers, hnetworks, hlength]
  simp only [List.length_map, hlength]

/-- Two routers: six intents for each of them, and one for each of the two directions between them. -/
theorem expectation_read_back_two_routers :
    let t : Topology := ⟨.ofList ["Denver", "Seattle"], .empty, by decide, fun _ h => nomatch h⟩
    ∃ a text c e, compile t .default = .ok a ∧ a.files.find? networkConfigFile = some text ∧
      ofJson? text = some c ∧ IntentExpectation.ofConfigs c a.files.daemonConfigs = .ok e ∧
      e.count = 14 := by
  intro t
  obtain ⟨a, ha⟩ : ∃ a, compile t .default = .ok a := ⟨_, rfl⟩
  obtain ⟨text, c, hfile, hread, hexpected⟩ := expectation_read_back ha (by decide)
  obtain ⟨e, he, -, -, hcount⟩ := hexpected a.files.daemonConfigs (.refl _)
  exact ⟨a, text, c, e, ha, hfile, hread, he, hcount⟩

end BackboneLab
