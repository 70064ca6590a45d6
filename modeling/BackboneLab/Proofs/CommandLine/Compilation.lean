import BackboneLab.CommandLine.Execution
import BackboneLab.Proofs.Experiment.Parts
import BackboneLab.Proofs.Files.Replacement
import BackboneLab.Proofs.Intent.Expectation

/-!
# Compiling into a directory

The command that compiles a topology touches no file unless there is something to write
(`Station.run_execute_compile`). What is written takes the place of everything in the directory, whatever
there was, so that later on no configuration of an earlier and larger backbone is counted. The main
statement is `compiled_directory_replaced`.
-/

namespace BackboneLab

/-! ## The names of the files -/

/-- The names of the files for so many routers. -/
def outputNames (routers : Nat) : List String :=
  (List.range' 1 routers).map routerConfigFile ++ fixedNames

theorem length_outputNames (routers : Nat) : (outputNames routers).length = routers + 4 := by
  rw [outputNames, List.length_append, List.length_map, List.length_range']
  rfl

theorem isPlainName_networkConfigFile : IsPlainName networkConfigFile :=
  ⟨by decide, 'n', by decide, by decide⟩

theorem isPlainName_routerConfigFile (i : Nat) : IsPlainName (routerConfigFile i) := by
  refine ⟨not_mem_routerConfigFile rfl (by decide) i, 'q', ?_, by decide⟩
  rw [routerConfigFile, String.toList_append, String.toList_append]
  exact List.mem_append_left _ (List.mem_append_left _ (by decide))

theorem isPlainName_of_mem_outputNames {routers : Nat} {name : String} (h : name ∈ outputNames routers) :
    IsPlainName name := by
  rcases List.mem_append.1 h with h | h
  · obtain ⟨i, -, rfl⟩ := List.mem_map.1 h
    exact isPlainName_routerConfigFile i
  · simp only [fixedNames, List.mem_cons, List.not_mem_nil, or_false] at h
    rcases h with rfl | rfl | rfl | rfl
    · exact ⟨by decide, 'q', by decide, by decide⟩
    · exact ⟨by decide, 'z', by decide, by decide⟩
    · exact isPlainName_networkConfigFile
    · exact ⟨by decide, 'g', by decide, by decide⟩

/-- The file of a router is among them if there is such a router. -/
theorem routerConfigFile_mem_outputNames_iff {routers i : Nat} :
    routerConfigFile i ∈ outputNames routers ↔ 1 ≤ i ∧ i ≤ routers := by
  rw [outputNames, List.mem_append, or_iff_left (routerConfigFile_not_mem_fixedNames i),
    List.mem_map_of_injective fun _ _ => routerConfigFile_injective, List.mem_range'_1]
  omega

section
variable {t : Topology} {s : Settings} {a : Artifacts}

theorem Artifacts.keys_files_perm (h : compile t s = .ok a) :
    a.files.keys.Perm (outputNames t.size) := by
  obtain ⟨p, hp, rfl⟩ := compile_eq_ok h
  have hlists := AddressPlan.ofNames_lists hp
  have hrouters : (ofPlan p s).routerConfigs.map (·.1) = List.range' 1 t.size := by
    rw [ofPlan, List.map_map, Topology.size, ← hlists.length_eq, ← hlists.map_index]
    rfl
  have hnodup := nodup_texts (nodup_routerConfigs hlists.index_nodup s)
  rw [outputNames, ← hrouters, ← map_fst_texts]
  exact (OrderedMap.entries_ofList_perm hnodup).map _

theorem Artifacts.isPlainName_of_mem_keys (h : compile t s = .ok a) :
    ∀ name ∈ a.files.keys, IsPlainName name :=
  fun _ hname => isPlainName_of_mem_outputNames ((keys_files_perm h).subset hname)

end

/-! ## Reading the expectation from a directory -/

section
variable {files : FileSet} {dir : Path} {before after : Store}

theorem Store.Replaced.run_text_join (h : before.Replaced dir files after) {name text : String}
    (hname : IsPlainName name) (htext : files.find? name = some text) :
    (FileAction.text (dir.join name)).run after = (.ok text, after) := by
  rw [FileAction.text, run_bind_ok (run_get _), h.text?_join hname, htext]
  rfl

theorem Store.Replaced.run_textsOf (h : before.Replaced dir files after) {es : List (String × String)}
    (hes : ∀ e ∈ es, IsPlainName e.1 ∧ files.find? e.1 = some e.2) :
    (textsOf dir (es.map (·.1))).run after = (.ok (es.map (·.2)), after) := by
  induction es with
  | nil => rfl
  | cons e es ih =>
    obtain ⟨hname, htext⟩ := hes e List.mem_cons_self
    have hrest := ih fun e he => hes e (List.mem_cons_of_mem _ he)
    rw [textsOf] at hrest
    rw [List.map_cons, textsOf, List.mapM_cons, run_bind_ok (h.run_text_join hname htext),
      run_bind_ok hrest]
    rfl

/-- From a directory that was replaced, the expectation is read as from the files themselves. -/
theorem IntentExpectation.run_ofDirectory (h : before.Replaced dir files after) (hdir : dir.text ≠ "")
    (hnames : ∀ name ∈ files.keys, IsPlainName name) {text : String} {c : NetworkConfig}
    (hnetwork : files.find? networkConfigFile = some text) (hc : ofJson? text = some c) :
    (ofDirectory dir).run after = (ofConfigs c files.daemonConfigs, after) := by
  have hconfig : (NetworkConfig.ofFile (dir.join networkConfigFile)).run after = (.ok c, after) := by
    rw [NetworkConfig.ofFile, run_bind_ok (h.run_text_join isPlainName_networkConfigFile hnetwork), hc]
    rfl
  have htexts : (textsOf dir (files.keys.filter isDaemonConfigFile)).run after =
      (.ok files.daemonConfigs, after) := by
    rw [OrderedMap.keys, List.filter_map]
    refine h.run_textsOf fun e he => ?_
    have hentry := (List.mem_filter.1 he).1
    exact ⟨hnames _ (List.mem_map_of_mem hentry), OrderedMap.find?_eq_some_iff.2 hentry⟩
  rw [ofDirectory, run_bind_ok hconfig, run_bind_ok (run_get _), h.fileNames?_eq hdir]
  dsimp only
  rw [run_bind_ok htexts, run_ofExcept]

end

/-! ## The command -/

/-- The settings for which a command is carried out. -/
def Overrides.settingsIn (o : Overrides) (files : Store) : Except Fault Settings :=
  match o.settingsFile with
  | some file => ((Settings.ofFile file).run files).1.map o.apply
  | none => .ok (o.apply .default)

/-- The topology that is compiled. -/
def topologyIn (topology : Option Path) (files : Store) : Except Fault Topology :=
  match topology with
  | some file => ((Topology.ofFile file).run files).1
  | none => .ok Abilene.topology

/-- What there is to write, unless the settings, the topology or their compilation fails. -/
def artifactsIn (o : Overrides) (topology : Option Path) (files : Store) : Except Fault Artifacts :=
  (o.settingsIn files).bind fun s => (topologyIn topology files).bind (compile · s)

/-- The same progress with other files. -/
def Progress.withFiles {σ : Type} (q : Progress σ) (files : Store) : Progress σ :=
  { q with scene := { q.scene with files } }

section
variable {σ α : Type} (q : Progress σ)

/-- Work that changes no file leaves everything as it is. -/
theorem Run.run_onFiles_of_keeps {a : FileAction α} (h : a.Keeps) :
    (Run.onFiles a).run q =
      (((a.run q.scene.files).1.mapError .preparation).mapError .fault, q) := by
  rw [Run.run_onFiles, h]

theorem Station.run_settingsOf (o : Overrides) :
    (settingsOf o).run q =
      (((o.settingsIn q.scene.files).mapError .preparation).mapError .fault, q) := by
  rw [settingsOf, Overrides.settingsIn]
  cases o.settingsFile with
  | none => rfl
  | some file =>
    dsimp only
    rw [run_bind, Run.run_onFiles_of_keeps q (Settings.keeps_ofFile file)]
    cases ((Settings.ofFile file).run q.scene.files).1 <;> rfl

/-- Work on files that writes a set of files, as a part of a run. -/
theorem Run.run_onFiles_writeTo (files : FileSet) (dir : Path) :
    (Run.onFiles (files.writeTo dir)).run q =
      match (files.writeTo dir).run q.scene.files with
      | (.error f, after) => (.error (.fault (.preparation f)), q.withFiles after)
      | (.ok (), after) => (.ok (), q.withFiles after) := by
  rw [Run.run_onFiles]
  rcases (files.writeTo dir).run q.scene.files with ⟨_ | _, after⟩ <;> rfl

theorem Station.run_compileInto (s : Settings) (dir : Path) (topology : Option Path) :
    (compileInto s dir topology).run q =
      match (topologyIn topology q.scene.files).bind (compile · s) with
      | .error f => (.error (.fault (.preparation f)), q)
      | .ok a => (Run.onFiles (a.files.writeTo dir)).run q := by
  let rest (t : Topology) : Run σ Unit := do
    let a ← Run.require ((compile t s).mapError .preparation)
    Run.onFiles (a.files.writeTo dir)
  have hrest : ∀ t : Topology, (rest t).run q =
      match compile t s with
      | .error f => (.error (.fault (.preparation f)), q)
      | .ok a => (Run.onFiles (a.files.writeTo dir)).run q := by
    intro t
    rw [run_bind, Run.run_require]
    cases compile t s <;> rfl
  cases topology with
  | none => exact hrest Abilene.topology
  | some file =>
    have hparts : compileInto s dir (some file) = Run.onFiles (Topology.ofFile file) >>= rest := rfl
    rw [hparts, run_bind, Run.run_onFiles_of_keeps q (Topology.keeps_ofFile file), topologyIn]
    cases ((Topology.ofFile file).run q.scene.files).1 with
    | error f => rfl
    | ok t => exact hrest t

/-- The command that compiles a topology writes its configurations, once it has them. -/
theorem Station.run_execute_compile (st : Station σ) (patience : Nat) (o : Overrides) (dir : Path)
    (topology : Option Path) :
    (st.execute patience ⟨o, .compile dir topology⟩).run q =
      match artifactsIn o topology q.scene.files with
      | .error f => (.error (.fault (.preparation f)), q)
      | .ok a =>
        match (a.files.writeTo dir).run q.scene.files with
        | (.error f, files) => (.error (.fault (.preparation f)), q.withFiles files)
        | (.ok (), files) => (.ok "", q.withFiles files) := by
  rw [execute, run_bind, run_settingsOf, artifactsIn]
  cases o.settingsIn q.scene.files with
  | error f => rfl
  | ok s =>
    rw [mapError_ok, mapError_ok, Except.bind]
    dsimp only
    rw [run_bind, run_compileInto]
    cases (topologyIn topology q.scene.files).bind (compile · s) with
    | error f => rfl
    | ok a =>
      dsimp only
      rw [Run.run_onFiles_writeTo]
      rcases (a.files.writeTo dir).run q.scene.files with ⟨_ | _, files⟩ <;> rfl

end

/-! ## The directory -/

/-- A path that leads down to a directory: it has a text, and no part of it leads up again, past
directories that may be missing. -/
structure Path.LeadsDown (path : Path) : Prop where
  ne_empty : path.text ≠ ""
  not_up : ['.', '.'] ∉ Text.splitOn '/' path.text.toList

/-- What is left of a directory into which the configurations for so many nodes were written, and what
is read from it afterwards. -/
structure Artifacts.Written (a : Artifacts) (nodes : Nat) (dir : Path) (before after : Store) : Prop where
  replaced : before.Replaced dir a.files after
  isTree : after.IsTree
  fileNames : after.fileNames? dir = some a.files.keys
  router_iff : ∀ i, (after.text? (dir.join (routerConfigFile i))).isSome ↔ 1 ≤ i ∧ i ≤ nodes
  expected : (IntentExpectation.ofDirectory dir).run after =
    (IntentExpectation.ofConfigs a.networkConfig a.files.daemonConfigs, after)

section
variable {t : Topology} {s : Settings} {a : Artifacts} {dir : Path} {before after : Store}

theorem Artifacts.written (h : compile t s = .ok a) (hdir : dir.LeadsDown) (htree : before.IsTree)
    (hwrite : (a.files.writeTo dir).run before = (.ok (), after)) : a.Written t.size dir before after := by
  have hplain := isPlainName_of_mem_keys h
  obtain ⟨hplace, hreplaced⟩ := FileSet.writeTo_ok htree hdir.ne_empty hplain hwrite
  refine ⟨hreplaced, hreplaced.isTree htree hplace, hreplaced.fileNames?_eq hdir.ne_empty,
    fun i => ?_, ?_⟩
  · rw [hreplaced.text?_join (isPlainName_routerConfigFile i), OrderedMap.isSome_find?_iff,
      (keys_files_perm h).mem_iff, routerConfigFile_mem_outputNames_iff]
  · obtain ⟨p, hp, rfl⟩ := compile_eq_ok h
    have hfiles := filesHold_ofPlan (AddressPlan.ofNames_lists hp).index_nodup s
    exact IntentExpectation.run_ofDirectory hreplaced hdir.ne_empty hplain hfiles.network
      (NetworkConfig.kept _).ofJson?_toPrettyJson

/-- One peer and one network for every node are expected of a directory with compiled configurations. -/
theorem Artifacts.Written.run_ofDirectory (h : compile t s = .ok a) (hpassword : OneLine s.bgp.password)
    (hwritten : a.Written t.size dir before after) :
    (IntentExpectation.ofDirectory dir).run after =
      (.ok ⟨t.size, List.replicate t.size 1⟩, after) := by
  obtain ⟨p, hp, rfl⟩ := compile_eq_ok h
  have hlists := AddressPlan.ofNames_lists hp
  have hpeers : (NetworkConfig.ofNodes p.nodes s).peers? =
      some (p.nodes.map NodeAddresses.routerId) := rfl
  have hconfig : (ofPlan p s).networkConfig = .ofNodes p.nodes s := rfl
  have hnetworks := networks_of_perm hpassword hlists.index_nodup (.refl _)
  rw [hwritten.expected, IntentExpectation.ofConfigs, hconfig, hpeers, hnetworks, hlists.length_eq]
  simp only [List.length_map, hlists.length_eq]
  rfl

end

/-- Compiling a topology replaces its output directory exactly.

The command changes nothing if the settings, the topology or the compilation fail, and otherwise nothing
but the files. Whatever was in the directory, it is left with the files of the configurations and nothing
below it: `quagga1.conf` and so on for every router, and four others, all of different names. No router's
file of another backbone is left to be counted, so that the expected intents are those of the new one.

The path leads down to the directory, since an empty path leads to none, and one that leads up again makes
the missing directories that it passes. The store is a tree before, and it is one again. -/
theorem compiled_directory_replaced :
    (∀ {σ : Type} (st : Station σ) (patience : Nat) (o : Overrides) (dir : Path)
      (topology : Option Path) (q : Progress σ),
      (∀ f, artifactsIn o topology q.scene.files = .error f →
        (st.execute patience ⟨o, .compile dir topology⟩).run q =
          (.error (.fault (.preparation f)), q)) ∧
      ∀ a after, artifactsIn o topology q.scene.files = .ok a →
        (a.files.writeTo dir).run q.scene.files = (.ok (), after) →
        (st.execute patience ⟨o, .compile dir topology⟩).run q = (.ok "", q.withFiles after)) ∧
      ∀ (t : Topology) (s : Settings) (a : Artifacts), compile t s = .ok a →
        a.files.keys.Perm (outputNames t.size) ∧ (outputNames t.size).Nodup ∧
        (outputNames t.size).length = t.size + 4 ∧ a.FilesHold ∧
        ∀ (dir : Path) (before after : Store), dir.LeadsDown → before.IsTree →
          (a.files.writeTo dir).run before = (.ok (), after) →
          a.Written t.size dir before after ∧
          (OneLine s.bgp.password → (IntentExpectation.ofDirectory dir).run after =
            (.ok ⟨t.size, List.replicate t.size 1⟩, after)) := by
  refine ⟨fun st patience o dir topology q => ⟨fun f hf => ?_, fun a after ha hwrite => ?_⟩,
    fun t s a h => ?_⟩
  · rw [Station.run_execute_compile, hf]
  · rw [Station.run_execute_compile, ha]
    dsimp only
    rw [hwrite]
  · have hperm := Artifacts.keys_files_perm h
    refine ⟨hperm, hperm.nodup_iff.1 a.files.keys_nodup, length_outputNames _, ?_,
      fun dir before after hdir htree hwrite => ?_⟩
    · obtain ⟨p, hp, rfl⟩ := compile_eq_ok h
      exact Artifacts.filesHold_ofPlan (AddressPlan.ofNames_lists hp).index_nodup s
    · have hwritten := Artifacts.written h hdir htree hwrite
      exact ⟨hwritten, fun hpassword => hwritten.run_ofDirectory h hpassword⟩

/-- The command compiles the built-in backbone of eleven nodes, and then a backbone of two nodes is
compiled into the same directory. In the end the command is given settings that are not there. -/
theorem compiled_directory_replaced_smaller :
    let two : Topology := ⟨.ofList ["Denver", "Seattle"], .empty, by decide, fun _ h => nomatch h⟩
    let dir : Path := ⟨"out/configs"⟩
    let o (settingsFile : Option Path) : Overrides := ⟨settingsFile, none, none, none, none⟩
    let q : Progress Unit := ⟨⟨.empty, ()⟩, [], []⟩
    ∃ b s₁ s₂, (Station.isolated.execute 0 ⟨o none, .compile dir none⟩).run q =
        (.ok "", q.withFiles s₁) ∧
      compile two .default = .ok b ∧ (b.files.writeTo dir).run s₁ = (.ok (), s₂) ∧
      (s₁.text? (dir.join (routerConfigFile 11))).isSome ∧
      ¬(s₂.text? (dir.join (routerConfigFile 11))).isSome ∧
      (IntentExpectation.ofDirectory dir).run s₂ = (.ok ⟨2, [1, 1]⟩, s₂) ∧
      (Station.isolated.execute 0 ⟨o (some ⟨"missing.toml"⟩), .compile dir none⟩).run
        (q.withFiles s₂) = (.error (.fault (.preparation .inaccessible)), q.withFiles s₂) := by
  intro two dir o q
  obtain ⟨a, ha⟩ : ∃ a, compile Abilene.topology .default = .ok a := ⟨_, rfl⟩
  obtain ⟨b, hb⟩ : ∃ b, compile two .default = .ok b := ⟨_, rfl⟩
  have hdir : dir.LeadsDown := ⟨by decide, by decide⟩
  obtain ⟨-, -, -, -, hlarge⟩ := compiled_directory_replaced.2 Abilene.topology .default a ha
  obtain ⟨-, -, -, -, hsmall⟩ := compiled_directory_replaced.2 two .default b hb
  obtain ⟨s₁, hfirst⟩ : ∃ s₁, (a.files.writeTo dir).run .empty = (.ok (), s₁) :=
    FileSet.exists_run_writeTo Store.isTree_empty hdir.ne_empty (by decide) (by decide)
      (Artifacts.isPlainName_of_mem_keys ha) (by decide)
  obtain ⟨hfirst₁, -⟩ := hlarge dir .empty s₁ hdir Store.isTree_empty hfirst
  have hroot : s₁.directory? [] = some .empty :=
    (hfirst₁.replaced.elsewhere "" (by decide)).trans (by decide)
  have hout : s₁.directory? ["out"] = some .empty :=
    (hfirst₁.replaced.elsewhere "out" (by decide)).trans (by decide)
  obtain ⟨s₂, hsecond⟩ : ∃ s₂, (b.files.writeTo dir).run s₁ = (.ok (), s₂) := by
    refine FileSet.exists_run_writeTo hfirst₁.isTree hdir.ne_empty (by decide) (by decide)
      (Artifacts.isPlainName_of_mem_keys hb) fun p hp => ?_
    have hchain : (Place.ofPath dir).chain = [["out"], ["out", "configs"]] := by decide
    rw [hchain, List.mem_cons, List.mem_singleton] at hp
    rcases hp with rfl | rfl
    · simp only [Store.file?, List.getLast?_singleton, List.dropLast_singleton, hroot]
      rfl
    · have hlast : ["out", "configs"].getLast? = some "configs" := rfl
      have hfront : ["out", "configs"].dropLast = ["out"] := rfl
      rw [Store.file?, hlast, hfront, hout]
      rfl
  obtain ⟨hsecond₂, hexpected⟩ := hsmall dir s₁ s₂ hdir hfirst₁.isTree hsecond
  have heleven : Abilene.topology.size = 11 := by decide +kernel
  refine ⟨b, s₁, s₂, ?_, hb, hsecond, (hfirst₁.router_iff 11).2 (by omega), fun helse => ?_,
    hexpected (by decide), ?_⟩
  · have hartifacts : artifactsIn (o none) none .empty = .ok a := by
      have hdefault : (o none).apply .default = .default := rfl
      rw [artifactsIn, Overrides.settingsIn, hdefault, topologyIn]
      dsimp only [Except.bind]
      exact ha
    exact (compiled_directory_replaced.1 Station.isolated 0 (o none) dir none q).2 a s₁ hartifacts hfirst
  · exact absurd ((hsecond₂.router_iff 11).1 helse).2 (by decide)
  · refine (compiled_directory_replaced.1 Station.isolated 0 (o _) dir none _).1 .inaccessible ?_
    have hroot₂ : s₂.directory? [] = some .empty := by
      refine (hsecond₂.replaced.elsewhere "" (by decide)).trans ?_
      rw [Store.directory?, Place.name_nil] at hroot
      rw [hroot, Option.some_or]
    have hfile : s₂.file? ["missing.toml"] = none := by
      simp only [Store.file?, List.getLast?_singleton, List.dropLast_singleton, hroot₂]
      rfl
    have htext : s₂.text? ⟨"missing.toml"⟩ = none := by
      have hplace : Place.ofPath ⟨"missing.toml"⟩ = ["missing.toml"] := by decide
      rw [Store.text?, hplace, hfile, ite_self]
    have hmissing : (FileAction.text ⟨"missing.toml"⟩).run s₂ = (.error .inaccessible, s₂) := by
      rw [FileAction.text, run_bind_ok (run_get _), htext]
      rfl
    have hsettings : (Settings.ofFile ⟨"missing.toml"⟩).run s₂ = (.error .inaccessible, s₂) :=
      run_bind_error hmissing
    have hfiles : (q.withFiles s₂).scene.files = s₂ := rfl
    rw [hfiles, artifactsIn, Overrides.settingsIn]
    dsimp only [o]
    rw [hsettings]
    rfl

end BackboneLab
