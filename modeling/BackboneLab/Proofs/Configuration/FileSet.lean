import BackboneLab.Configuration.FileSet
import BackboneLab.Proofs.Ordered.Map
import BackboneLab.Proofs.Sequencing

/-!
# The files of a configured backbone

No two configurations share a file (`Artifacts.nodup_texts`), so that every file holds the configuration
that is written into it (`Artifacts.find?_files`).
-/

namespace BackboneLab

/-! ## Names of files -/

theorem routerConfigFile_injective {i j : Nat} (h : routerConfigFile i = routerConfigFile j) : i = j := by
  have h' : ("quagga".toList ++ natText i) ++ ".conf".toList =
      ("quagga".toList ++ natText j) ++ ".conf".toList := by
    simpa [routerConfigFile, decimal] using congrArg String.toList h
  exact natText_injective (List.append_cancel_left (List.append_cancel_right h'))

/-- The name of a router's file holds digits, and the letters of its two fixed parts. -/
theorem not_mem_routerConfigFile {c : Char} (hdigit : c.isDigit = false)
    (h : c ∉ "quagga.conf".toList) (i : Nat) : c ∉ (routerConfigFile i).toList := by
  have hparts : "quagga.conf".toList = "quagga".toList ++ ".conf".toList := rfl
  rw [hparts, List.mem_append, not_or] at h
  have hindex : (decimal i).toList = natText i := String.toList_ofList
  rw [routerConfigFile, String.toList_append, String.toList_append, hindex, List.mem_append,
    List.mem_append, not_or, not_or]
  exact ⟨⟨h.1, Ipv4.not_mem_natText hdigit i⟩, h.2⟩

theorem routerConfigFile_ne {name : String} {c : Char} (hc : c ∈ name.toList)
    (hdigit : c.isDigit = false) (h : c ∉ "quagga.conf".toList) (i : Nat) :
    routerConfigFile i ≠ name :=
  fun heq => not_mem_routerConfigFile hdigit h i (heq ▸ hc)

/-- The names of the files that are there for any number of routers. -/
def fixedNames : List String := [speakerConfigFile, zebraConfigFile, networkConfigFile, displayFile]

/-- No router's file has one of these names, each of which holds a letter that those do not hold. -/
theorem routerConfigFile_not_mem_fixedNames (i : Nat) : routerConfigFile i ∉ fixedNames := by
  intro h
  simp only [fixedNames, List.mem_cons, List.not_mem_nil, or_false] at h
  rcases h with heq | heq | heq | heq
  · exact routerConfigFile_ne (c := '-') (by decide) (by decide) (by decide) i heq
  · exact routerConfigFile_ne (c := 'z') (by decide) (by decide) (by decide) i heq
  · exact routerConfigFile_ne (c := '-') (by decide) (by decide) (by decide) i heq
  · exact routerConfigFile_ne (c := 'j') (by decide) (by decide) (by decide) i heq

/-! ## Artifacts -/

namespace Artifacts

/-- The configurations for an address plan. -/
def ofPlan (p : AddressPlan) (s : Settings) : Artifacts where
  plan := p
  routerConfigs := p.nodes.map fun n => (n.index, routerConfig n s.bgp)
  speakerConfig := BackboneLab.speakerConfig p.nodes s
  zebraConfig := BackboneLab.zebraConfig s.bgp
  networkConfig := .ofNodes p.nodes s
  display := .ofNodes p.nodes s

/-- The routers of a plan are told apart by their indices. -/
theorem nodup_routerConfigs {p : AddressPlan} (h : (p.nodes.map NodeAddresses.index).Nodup)
    (s : Settings) : ((ofPlan p s).routerConfigs.map (·.1)).Nodup := by
  have hindices : (ofPlan p s).routerConfigs.map (·.1) = p.nodes.map NodeAddresses.index :=
    List.map_map ..
  exact hindices ▸ h

/-- The texts of all configurations, with the names of their files. -/
def texts (a : Artifacts) : List (String × String) :=
  a.routerConfigs.map (fun c => (routerConfigFile c.1, textOfLines c.2)) ++
    [(speakerConfigFile, textOfLines a.speakerConfig),
      (zebraConfigFile, textOfLines a.zebraConfig),
      (networkConfigFile, toPrettyJson a.networkConfig),
      (displayFile, toPrettyJson a.display)]

theorem files_eq (a : Artifacts) : a.files = .ofList a.texts := rfl

theorem map_fst_texts (a : Artifacts) :
    a.texts.map (·.1) = (a.routerConfigs.map (·.1)).map routerConfigFile ++ fixedNames := by
  rw [texts, List.map_append, List.map_map, List.map_map]
  rfl

/-- Every configuration has a file of its own. -/
theorem nodup_texts {a : Artifacts} (h : (a.routerConfigs.map (·.1)).Nodup) :
    (a.texts.map (·.1)).Nodup := by
  have hfixed : fixedNames.Nodup := by decide
  rw [map_fst_texts, List.nodup_append]
  refine ⟨h.map fun i j => routerConfigFile_injective, hfixed, fun name hname other hother heq => ?_⟩
  obtain ⟨i, -, rfl⟩ := List.mem_map.1 hname
  exact routerConfigFile_not_mem_fixedNames i (heq ▸ hother)

/-- A file holds the configuration that is written into it. -/
theorem find?_files {a : Artifacts} (h : (a.routerConfigs.map (·.1)).Nodup) {name text : String}
    (hmem : (name, text) ∈ a.texts) : a.files.find? name = some text := by
  rw [files_eq, OrderedMap.find?_ofList_of_mem (nodup_texts h) hmem]

/-- What every file of a configured backbone holds. -/
structure FilesHold (a : Artifacts) : Prop where
  router : ∀ c ∈ a.routerConfigs, a.files.find? (routerConfigFile c.1) = some (textOfLines c.2)
  speaker : a.files.find? speakerConfigFile = some (textOfLines a.speakerConfig)
  zebra : a.files.find? zebraConfigFile = some (textOfLines a.zebraConfig)
  network : a.files.find? networkConfigFile = some (toPrettyJson a.networkConfig)
  display : a.files.find? displayFile = some (toPrettyJson a.display)

theorem filesHold {a : Artifacts} (h : (a.routerConfigs.map (·.1)).Nodup) : a.FilesHold where
  router _ hc := find?_files h (List.mem_append_left _ (List.mem_map_of_mem hc))
  speaker := find?_files h (List.mem_append_right _ (by simp))
  zebra := find?_files h (List.mem_append_right _ (by simp))
  network := find?_files h (List.mem_append_right _ (by simp))
  display := find?_files h (List.mem_append_right _ (by simp))

/-- The files of a plan hold its configurations, since its routers are told apart by their indices. -/
theorem filesHold_ofPlan {p : AddressPlan} (h : (p.nodes.map NodeAddresses.index).Nodup)
    (s : Settings) : (ofPlan p s).FilesHold :=
  filesHold (nodup_routerConfigs h s)

/-- The file of a router is found by the index of its node. -/
theorem FilesHold.router_of_mem {p : AddressPlan} {s : Settings} (h : (ofPlan p s).FilesHold)
    {n : NodeAddresses} (hn : n ∈ p.nodes) :
    (ofPlan p s).files.find? (routerConfigFile n.index) = some (textOfLines (routerConfig n s.bgp)) :=
  h.router (n.index, routerConfig n s.bgp) (List.mem_map.2 ⟨n, hn, rfl⟩)

end Artifacts

/-- Configurations are derived from every backbone that has an address plan, and from no other. -/
theorem compile_eq (t : Topology) (s : Settings) :
    compile t s = (AddressPlan.ofTopology t s.reserved).map (Artifacts.ofPlan · s) := by
  rw [compile]
  cases AddressPlan.ofTopology t s.reserved <;> rfl

theorem compile_eq_ok {t : Topology} {s : Settings} {a : Artifacts} (h : compile t s = .ok a) :
    ∃ p, AddressPlan.ofTopology t s.reserved = .ok p ∧ a = .ofPlan p s := by
  rw [compile_eq] at h
  exact ok_of_map h

end BackboneLab
