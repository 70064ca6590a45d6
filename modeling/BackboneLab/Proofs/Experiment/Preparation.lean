import BackboneLab.Experiment.Run
import BackboneLab.Proofs.Configuration.FileSet
import BackboneLab.Proofs.Emulation.Layout
import BackboneLab.Proofs.Experiment.Parts
import BackboneLab.Proofs.Files.Actions
import BackboneLab.Rehearsal.Script

/-!
# How the preparation of an experiment ends

The only thing that a preparation changes is the directory of the configuration, and it does so between
two computations that may fail. `Refused` tells the faults that come before the writing, and
`PreparationEnd` every way in which a preparation ends: what is written is followed by no fault, because
the same backbones are compiled and laid out (`compile_layout`). `failed_preparation` puts this together
for a run: one that is refused leaves the files and all systems as they were.
-/

namespace BackboneLab

/-- What is compiled can also be laid out. -/
theorem compile_layout {t : Topology} {s : Settings} {a : Artifacts} (h : compile t s = .ok a)
    (confDir : Path) : ∃ n, EmulatedNetwork.ofTopology t s confDir = .ok n := by
  obtain ⟨p, hp, -⟩ := compile_eq_ok h
  rw [EmulatedNetwork.ofTopology_eq, hp]
  exact ⟨_, rfl⟩

section
variable (b : Bundle) (s : Settings) (confDir : Path) (files : Store)

/-- A bundle is refused with the first of these faults: that of its schedule, and then that of its
network or of the configuration for it. -/
inductive Refused : Fault → Prop
  | unscheduled {f : Fault} (schedule : b.schedule = .error f) : Refused f
  | uncompiled {schedule : Schedule} {f : Fault} (scheduled : b.schedule = .ok schedule)
      (backbone : b.useAlternateTopology = false) (compiled : compile Abilene.topology s = .error f) :
      Refused f
  | unplanned {schedule : Schedule} {f : Fault} (scheduled : b.schedule = .ok schedule)
      (alternate : b.useAlternateTopology = true)
      (network : EmulatedNetwork.tutorial s confDir = .error f) : Refused f
  | unconfigured {schedule : Schedule} {n : EmulatedNetwork} {f : Fault}
      (scheduled : b.schedule = .ok schedule) (alternate : b.useAlternateTopology = true)
      (network : EmulatedNetwork.tutorial s confDir = .ok n)
      (config : ((NetworkConfig.ofFile (confDir.join networkConfigFile)).run files).1 = .error f) :
      Refused f

/-- The result of a preparation, and the files after it. After a refusal they are as they were, and of
the other preparations only one that cannot write its files has no result. -/
inductive PreparationEnd : Except Fault Preparation → Store → Prop
  | refused {f : Fault} (refused : Refused b s confDir files f) : PreparationEnd (.error f) files
  | unwritten {schedule : Schedule} {a : Artifacts} {files' : Store}
      (scheduled : b.schedule = .ok schedule) (backbone : b.useAlternateTopology = false)
      (compiled : compile Abilene.topology s = .ok a)
      (written : (a.files.writeTo confDir).run files = (.error .inaccessible, files')) :
      PreparationEnd (.error .inaccessible) files'
  | written {schedule : Schedule} {a : Artifacts} {n : EmulatedNetwork} {files' : Store}
      (scheduled : b.schedule = .ok schedule) (backbone : b.useAlternateTopology = false)
      (compiled : compile Abilene.topology s = .ok a)
      (written : (a.files.writeTo confDir).run files = (.ok (), files'))
      (network : EmulatedNetwork.ofTopology Abilene.topology s confDir = .ok n) :
      PreparationEnd (.ok ⟨schedule, n, a.networkConfig⟩) files'
  | read {schedule : Schedule} {n : EmulatedNetwork} {c : NetworkConfig}
      (scheduled : b.schedule = .ok schedule) (alternate : b.useAlternateTopology = true)
      (network : EmulatedNetwork.tutorial s confDir = .ok n)
      (config : (NetworkConfig.ofFile (confDir.join networkConfigFile)).run files = (.ok c, files)) :
      PreparationEnd (.ok ⟨schedule, n, c⟩) files

end

namespace Preparation

variable {b : Bundle} {s : Settings} {confDir : Path} {files : Store} {schedule : Schedule}

/-- With a schedule, it is left to find the network and its configuration. -/
theorem ofBundle_scheduled (h : b.schedule = .ok schedule) :
    (ofBundle b s confDir).run files =
      ((if b.useAlternateTopology then alternate s confDir else compiled s confDir) >>= fun x =>
        pure ⟨schedule, x.1, x.2⟩ : FileAction Preparation).run files := by
  have hschedule : (ofExcept b.schedule : FileAction Schedule).run files = (.ok schedule, files) := by
    rw [run_ofExcept, h]
  refine (run_bind_ok hschedule).trans ?_
  dsimp only
  split
  · rfl
  · rfl

/-- The tutorial network is laid out and its configuration read, which changes no file. -/
theorem of_alternate {r : Except Fault (EmulatedNetwork × NetworkConfig)} {files' : Store}
    (h : (alternate s confDir).run files = (r, files')) :
    files' = files ∧
      ((∃ f, EmulatedNetwork.tutorial s confDir = .error f ∧ r = .error f) ∨
        ∃ n, EmulatedNetwork.tutorial s confDir = .ok n ∧
          ((∃ f, (NetworkConfig.ofFile (confDir.join networkConfigFile)).run files = (.error f, files) ∧
              r = .error f) ∨
            ∃ c, (NetworkConfig.ofFile (confDir.join networkConfigFile)).run files = (.ok c, files) ∧
              r = .ok (n, c))) := by
  rcases of_run_bind h with ⟨f, hnetwork, rfl⟩ | ⟨n, files₁, hnetwork, hrest⟩
  · rw [run_ofExcept] at hnetwork
    obtain ⟨hnetwork, rfl⟩ := Prod.ext_iff.1 hnetwork
    exact ⟨rfl, .inl ⟨f, hnetwork, rfl⟩⟩
  rw [run_ofExcept] at hnetwork
  obtain ⟨hnetwork, rfl⟩ := Prod.ext_iff.1 hnetwork
  have hkept := NetworkConfig.keeps_ofFile (confDir.join networkConfigFile) files
  rcases of_run_bind hrest with ⟨f, hconfig, rfl⟩ | ⟨c, files₂, hconfig, hpair⟩
  · rw [hconfig] at hkept
    obtain rfl : files' = files := hkept
    exact ⟨rfl, .inr ⟨n, hnetwork, .inl ⟨f, hconfig, rfl⟩⟩⟩
  · rw [hconfig] at hkept
    obtain rfl : files₂ = files := hkept
    cases hpair
    exact ⟨rfl, .inr ⟨n, hnetwork, .inr ⟨c, hconfig, rfl⟩⟩⟩

/-- Files are written only for a network that can be laid out. -/
theorem of_compiled {r : Except Fault (EmulatedNetwork × NetworkConfig)} {files' : Store}
    (h : (compiled s confDir).run files = (r, files')) :
    (∃ f, compile Abilene.topology s = .error f ∧ r = .error f ∧ files' = files) ∨
      ∃ a, compile Abilene.topology s = .ok a ∧
        ((a.files.writeTo confDir).run files = (.error .inaccessible, files') ∧
            r = .error .inaccessible ∨
          (a.files.writeTo confDir).run files = (.ok (), files') ∧
            ∃ n, EmulatedNetwork.ofTopology Abilene.topology s confDir = .ok n ∧
              r = .ok (n, a.networkConfig)) := by
  rcases of_run_bind h with ⟨f, hcompile, rfl⟩ | ⟨a, files₁, hcompile, hrest⟩
  · rw [run_ofExcept] at hcompile
    obtain ⟨hcompile, rfl⟩ := Prod.ext_iff.1 hcompile
    exact .inl ⟨f, hcompile, rfl, rfl⟩
  rw [run_ofExcept] at hcompile
  obtain ⟨hcompile, rfl⟩ := Prod.ext_iff.1 hcompile
  refine .inr ⟨a, hcompile, ?_⟩
  rcases of_run_bind hrest with ⟨f, hwrite, rfl⟩ | ⟨_, files₂, hwrite, hpair⟩
  · obtain rfl := a.files.failsOnAccess_writeTo confDir _ _ _ hwrite
    exact .inl ⟨hwrite, rfl⟩
  · obtain ⟨n, hn⟩ := compile_layout hcompile confDir
    have hlaidOut : (MonadExcept.ofExcept (EmulatedNetwork.ofTopology Abilene.topology s confDir) :
        FileAction EmulatedNetwork).run files₂ = (.ok n, files₂) := by rw [run_ofExcept, hn]
    rw [run_bind_ok hlaidOut] at hpair
    cases hpair
    exact .inr ⟨hwrite, n, hn, rfl⟩

/-- Every preparation ends in one of these ways. -/
theorem ofBundle_end (b : Bundle) (s : Settings) (confDir : Path) (files : Store) :
    PreparationEnd b s confDir files ((ofBundle b s confDir).run files).1
      ((ofBundle b s confDir).run files).2 := by
  rcases hrun : (ofBundle b s confDir).run files with ⟨r, files'⟩
  cases hschedule : b.schedule with
  | error f =>
    have hrefused : (ofBundle b s confDir).run files = (.error f, files) :=
      run_bind_error (by rw [run_ofExcept, hschedule])
    rw [hrefused] at hrun
    cases hrun
    exact .refused (.unscheduled hschedule)
  | ok schedule =>
    rw [ofBundle_scheduled hschedule] at hrun
    cases halternate : b.useAlternateTopology with
    | true =>
      rw [if_pos halternate] at hrun
      rcases of_run_bind hrun with ⟨f, hparts, rfl⟩ | ⟨x, files₁, hparts, hpair⟩
      · obtain ⟨rfl, ⟨_, hnetwork, he⟩ | ⟨n, hnetwork, ⟨_, hconfig, he⟩ | ⟨_, -, he⟩⟩⟩ :=
          of_alternate hparts
        · cases he
          exact .refused (.unplanned hschedule halternate hnetwork)
        · cases he
          exact .refused (.unconfigured hschedule halternate hnetwork (by rw [hconfig]))
        · cases he
      · cases hpair
        obtain ⟨rfl, ⟨_, -, he⟩ | ⟨n, hnetwork, ⟨_, -, he⟩ | ⟨c, hconfig, he⟩⟩⟩ := of_alternate hparts
        · cases he
        · cases he
        · cases he
          exact .read hschedule halternate hnetwork hconfig
    | false =>
      rw [if_neg (by rw [halternate]; exact Bool.false_ne_true)] at hrun
      rcases of_run_bind hrun with ⟨f, hparts, rfl⟩ | ⟨x, files₁, hparts, hpair⟩
      · rcases of_compiled hparts with ⟨_, hcompile, he, rfl⟩ | ⟨a, hcompile, ⟨hwrite, he⟩ | ⟨-, _, -, he⟩⟩
        · cases he
          exact .refused (.uncompiled hschedule halternate hcompile)
        · cases he
          exact .unwritten hschedule halternate hcompile hwrite
        · cases he
      · cases hpair
        rcases of_compiled hparts with ⟨_, -, he, -⟩ | ⟨a, hcompile, ⟨-, he⟩ | ⟨hwrite, n, hn, he⟩⟩
        · cases he
        · cases he
        · cases he
          exact .written hschedule halternate hcompile hwrite hn

end Preparation

/-- A bundle that is refused is not prepared, and no file is changed. -/
theorem Refused.run_ofBundle {b : Bundle} {s : Settings} {confDir : Path} {files : Store} {f : Fault}
    (h : Refused b s confDir files f) :
    (Preparation.ofBundle b s confDir).run files = (.error f, files) := by
  cases h with
  | unscheduled hschedule => exact run_bind_error (by rw [run_ofExcept, hschedule])
  | uncompiled hschedule hbackbone hcompile =>
    rw [Preparation.ofBundle_scheduled hschedule,
      if_neg (by rw [hbackbone]; exact Bool.false_ne_true)]
    exact run_bind_error (run_bind_error (by rw [run_ofExcept, hcompile]))
  | unplanned hschedule halternate hnetwork =>
    rw [Preparation.ofBundle_scheduled hschedule, if_pos halternate]
    exact run_bind_error (run_bind_error (by rw [run_ofExcept, hnetwork]))
  | unconfigured hschedule halternate hnetwork hconfig =>
    rw [Preparation.ofBundle_scheduled hschedule, if_pos halternate]
    refine run_bind_error ((run_bind_ok (by rw [run_ofExcept, hnetwork])).trans (run_bind_error ?_))
    exact Prod.ext hconfig (NetworkConfig.keeps_ofFile _ files)

/-! ## Runs -/

section
variable {σ : Type} (t : Testbed σ)

/-- What a run does once it is prepared: it starts the emulator, and then goes through its stages. -/
def Testbed.prepared (p : Preparation) (s : Settings) (confDir : Path) (patience : Nat) :
    Run σ ExperimentReport := do
  Run.attempt (t.startEmulator p.network) (.emulatorStarted p.network)
  Run.emulated t p s confDir patience

variable {b : Bundle} {s : Settings} {confDir : Path} {scene : Scene σ} {files : Store}

/-- A run without a preparation does nothing but change files. -/
theorem Testbed.run_experiment_error (patience : Nat) {f : Fault}
    (h : (Preparation.ofBundle b s confDir).run scene.files = (.error f, files)) :
    (t.experiment b s confDir patience).run (.ofScene scene) =
      (.error (.fault (.preparation f)), .ofScene ⟨files, scene.systems⟩) := by
  have hfiles : (Run.onFiles (Preparation.ofBundle b s confDir)).run (.ofScene scene) =
      (.error (.fault (.preparation f)), .ofScene ⟨files, scene.systems⟩) := by
    rw [Run.run_onFiles, Progress.ofScene, h]
    rfl
  exact run_bind_error hfiles

/-- A run with a preparation goes on with the start of the emulator. -/
theorem Testbed.run_experiment_ok (patience : Nat) {p : Preparation}
    (h : (Preparation.ofBundle b s confDir).run scene.files = (.ok p, files)) :
    (t.experiment b s confDir patience).run (.ofScene scene) =
      (t.prepared p s confDir patience).run (.ofScene ⟨files, scene.systems⟩) := by
  have hfiles : (Run.onFiles (Preparation.ofBundle b s confDir)).run (.ofScene scene) =
      (.ok p, .ofScene ⟨files, scene.systems⟩) := by
    rw [Run.run_onFiles, Progress.ofScene, h]
    rfl
  exact run_bind_ok hfiles

end

/-- A run whose bundle is refused ends with the first fault, with all files as they were, and without
anything asked of the systems. What is compiled can be laid out, so that a run which has begun to write
its files fails for no other reason than that it cannot write them; once they are written, or read, the
run goes on with the start of the emulator. -/
theorem failed_preparation {σ : Type} (t : Testbed σ) (b : Bundle) (s : Settings) (confDir : Path)
    (patience : Nat) (scene : Scene σ) :
    (∀ f, Refused b s confDir scene.files f →
      (t.experiment b s confDir patience).run (.ofScene scene) =
        (.error (.fault (.preparation f)), .ofScene scene)) ∧
    (∀ (backbone : Topology) (a : Artifacts), compile backbone s = .ok a →
      ∃ n, EmulatedNetwork.ofTopology backbone s confDir = .ok n) ∧
    ∃ r files, PreparationEnd b s confDir scene.files r files ∧
      (t.experiment b s confDir patience).run (.ofScene scene) =
        match r with
        | .error f => (.error (.fault (.preparation f)), .ofScene ⟨files, scene.systems⟩)
        | .ok p => (t.prepared p s confDir patience).run (.ofScene ⟨files, scene.systems⟩) := by
  refine ⟨?_, fun backbone a h => compile_layout h confDir, ?_⟩
  · intro f hrefused
    exact t.run_experiment_error patience hrefused.run_ofBundle
  · refine ⟨_, _, Preparation.ofBundle_end b s confDir scene.files, ?_⟩
    rcases hrun : (Preparation.ofBundle b s confDir).run scene.files with ⟨f | p, files⟩
    · exact t.run_experiment_error patience hrun
    · exact t.run_experiment_ok patience hrun

/-- A rule that maps a node to no octet: the notes in the directory of the configuration are kept. -/
theorem failed_preparation_reserved_index :
    let script : Script := {}
    let b : Bundle := ⟨.empty, false, 1, 0⟩
    let s : Settings := { Settings.default with reserved := [⟨3, .fixed 0⟩] }
    let notes : Directory := .ofList [("notes.txt", .text "keep me")]
    let scene : Scene _ := ⟨⟨.ofList [("", .empty), ("conf", notes)]⟩, script.initial⟩
    (script.testbed.experiment b s ⟨"conf"⟩ 5).run (.ofScene scene) =
      (.error (.fault (.preparation (.addressOverflow 3 0))), .ofScene scene) := by
  intro script b s notes scene
  have hschedule : b.schedule = .ok .empty := rfl
  have hrefused : Refused b s ⟨"conf"⟩ scene.files (.addressOverflow 3 0) :=
    .uncompiled hschedule rfl rfl
  exact (failed_preparation script.testbed b s ⟨"conf"⟩ 5 scene).1 _ hrefused

end BackboneLab
