import BackboneLab.Files.Documents
import BackboneLab.Proofs.Sequencing

/-!
# What work on files can come to

Reading a document changes no file (`FileAction.Keeps`), and replacing a directory fails for no other
reason than that a file or a directory cannot be used (`FileAction.FailsOnAccess`). Both hold of a
sequence of actions if they hold of each of them.
-/

namespace BackboneLab

namespace FileAction

variable {α β : Type}

/-- Whatever comes of the action, every file is as it was. -/
def Keeps (a : FileAction α) : Prop := ∀ files, (a.run files).2 = files

/-- The action fails only because a file or a directory cannot be used. -/
def FailsOnAccess (a : FileAction α) : Prop :=
  ∀ files files' f, a.run files = (.error f, files') → f = .inaccessible

/-! ## Actions that keep the files -/

theorem keeps_pure (x : α) : Keeps (pure x) := fun _ => rfl

theorem keeps_throw (f : Fault) : Keeps (throw f : FileAction α) := fun _ => rfl

theorem keeps_get : Keeps get := fun _ => rfl

theorem Keeps.bind {a : FileAction α} {f : α → FileAction β} (ha : Keeps a) (hf : ∀ x, Keeps (f x)) :
    Keeps (a >>= f) := by
  intro files
  rcases hrun : (a >>= f).run files with ⟨r, files'⟩
  rcases of_run_bind hrun with ⟨e, hfirst, -⟩ | ⟨x, files₁, hfirst, hrest⟩
  · have hkept := ha files
    rwa [hfirst] at hkept
  · have hkept := ha files
    have hkept₁ := hf x files₁
    rw [hfirst] at hkept
    rw [hrest] at hkept₁
    exact hkept₁.trans hkept

theorem keeps_ofExcept (x : Except Fault α) : Keeps (MonadExcept.ofExcept x) := fun _ => by
  rw [run_ofExcept]

/-- Reading a text changes no file. -/
theorem keeps_text (path : Path) : Keeps (text path) := by
  refine keeps_get.bind fun files => ?_
  split
  · exact keeps_pure _
  · exact keeps_throw _

/-! ## Actions that fail only on access -/

theorem failsOnAccess_pure (x : α) : FailsOnAccess (pure x) := by
  intro files files' f h
  cases h

theorem failsOnAccess_inaccessible : FailsOnAccess (throw .inaccessible : FileAction α) := by
  intro files files' f h
  cases h
  rfl

/-- Nothing follows a refusal. -/
theorem failsOnAccess_refusal (next : α → FileAction β) :
    FailsOnAccess (throw .inaccessible >>= next) := by
  intro files files' f h
  cases h
  rfl

theorem failsOnAccess_get : FailsOnAccess get := by
  intro files files' f h
  cases h

theorem failsOnAccess_set (s : Store) : FailsOnAccess (set s) := by
  intro files files' f h
  cases h

theorem FailsOnAccess.bind {a : FileAction α} {f : α → FileAction β} (ha : FailsOnAccess a)
    (hf : ∀ x, FailsOnAccess (f x)) : FailsOnAccess (a >>= f) := by
  intro files files' e h
  rcases of_run_bind h with ⟨e', hfirst, he⟩ | ⟨x, files₁, -, hrest⟩
  · cases he
    exact ha files files' e hfirst
  · exact hf x files₁ files' e hrest

theorem failsOnAccess_removeAll (path : Path) : FailsOnAccess (removeAll path) := by
  refine failsOnAccess_get.bind fun files => ?_
  dsimp only
  split
  · exact failsOnAccess_refusal _
  split
  · exact (failsOnAccess_set _).bind fun _ => failsOnAccess_refusal _
  · exact failsOnAccess_set _

theorem failsOnAccess_makeEach (ps : List Place) : FailsOnAccess (makeEach ps) := by
  induction ps with
  | nil => exact failsOnAccess_pure _
  | cons p ps ih =>
    refine failsOnAccess_get.bind fun files => ?_
    dsimp only
    split
    · exact failsOnAccess_refusal _
    split
    · exact (failsOnAccess_set _).bind fun _ => ih
    · exact ih

theorem failsOnAccess_write (path : Path) (content : FileContent) :
    FailsOnAccess (write path content) := by
  refine failsOnAccess_get.bind fun files => ?_
  dsimp only
  split
  · split
    · exact failsOnAccess_refusal _
    · exact failsOnAccess_set _
  · exact failsOnAccess_inaccessible

end FileAction

open FileAction

theorem failsOnAccess_writeEntries (dir : Path) (es : List (String × String)) :
    FailsOnAccess (writeEntries dir es) := by
  induction es with
  | nil => exact failsOnAccess_pure _
  | cons e es ih => exact (failsOnAccess_write _ _).bind fun _ => ih

/-- A directory is replaced by a set of files unless one of them cannot be used. -/
theorem FileSet.failsOnAccess_writeTo (fs : FileSet) (dir : Path) : FailsOnAccess (fs.writeTo dir) := by
  have hwritten : FailsOnAccess (createAll dir >>= fun _ => writeEntries dir fs.entries) :=
    (failsOnAccess_makeEach _).bind fun _ => failsOnAccess_writeEntries dir fs.entries
  refine failsOnAccess_get.bind fun files => ?_
  split
  · exact (failsOnAccess_removeAll dir).bind fun _ => hwritten
  · exact hwritten

/-! ## Documents -/

/-- Reading settings changes no file. -/
theorem Settings.keeps_ofFile (path : Path) : Keeps (ofFile path) :=
  (keeps_text path).bind fun _ => keeps_ofExcept _

/-- Reading a topology changes no file. -/
theorem Topology.keeps_ofFile (path : Path) : Keeps (ofFile path) :=
  (keeps_text path).bind fun _ => keeps_ofExcept _

/-- Reading the controller's configuration changes no file. -/
theorem NetworkConfig.keeps_ofFile (path : Path) : Keeps (ofFile path) := by
  refine (keeps_text path).bind fun text => ?_
  split
  · exact keeps_pure _
  · exact keeps_throw _

/-- Reading several texts changes no file. -/
theorem keeps_textsOf (dir : Path) (names : List String) : Keeps (textsOf dir names) := by
  induction names with
  | nil => exact keeps_pure _
  | cons name names ih =>
    rw [textsOf, List.mapM_cons]
    exact (keeps_text _).bind fun _ => ih.bind fun _ => keeps_pure _

/-- Finding out how many intents are expected changes no file. -/
theorem IntentExpectation.keeps_ofDirectory (dir : Path) : Keeps (ofDirectory dir) := by
  refine (NetworkConfig.keeps_ofFile _).bind fun config => keeps_get.bind fun files => ?_
  split
  · exact (keeps_textsOf dir _).bind fun _ => keeps_ofExcept _
  · exact keeps_throw _

end BackboneLab
