import BackboneLab.Proofs.Files.Actions
import BackboneLab.Proofs.Files.Places
import BackboneLab.Proofs.Ordered.Map

/-!
# Replacing a directory

A store is a tree if a directory is at every place that something is at or below (`Store.IsTree`). In such
a store, replacing a directory by a set of files leaves exactly these files in it and nothing below it, and
changes nothing else but for the directories above, which are made if they are missing
(`FileSet.writeTo_ok`). The store is a tree again (`Store.Replaced.isTree`).
-/

namespace BackboneLab

namespace Store

/-! ## Directories of a store -/

/-- A directory is at every place that something is at or below. -/
structure IsTree (s : Store) : Prop where
  root : (s.directory? []).isSome
  above : ∀ {p : Place} {name : String}, isWithin p name = true →
    (s.directories.find? name).isSome → (s.directory? p).isSome

theorem isTree_empty : empty.IsTree where
  root := rfl
  above {p name} hwithin hname := by
    have hroot : name = "" := by
      by_contra hne
      have hnone : empty.directories.find? name = none := OrderedMap.find?_ofList_of_not_mem (by simpa)
      rw [hnone] at hname
      cases hname
    subst hroot
    rw [directory?, Place.name_eq_of_isWithin_root hwithin]
    rfl

variable {s s' : Store} {p q : Place}

theorem directory?_setDirectory_self (s : Store) (p : Place) (d : Directory) :
    (s.setDirectory p d).directory? p = some d :=
  OrderedMap.find?_insert_self _ _ _

theorem directory?_setDirectory_of_ne (s : Store) (d : Directory) (h : q.name ≠ p.name) :
    (s.setDirectory p d).directory? q = s.directory? q :=
  OrderedMap.find?_insert_of_ne _ _ h

/-- Of several contents for a directory the last one counts. -/
theorem setDirectory_setDirectory (s : Store) (p : Place) (d d' : Directory) :
    (s.setDirectory p d).setDirectory p d' = s.setDirectory p d' := by
  refine congrArg Store.mk (OrderedMap.ext_find? fun name => ?_)
  rw [OrderedMap.find?_insert, OrderedMap.find?_insert]
  split
  · rfl
  next h => exact (OrderedMap.find?_insert _ _ _ _).trans (if_neg h)

/-- A directory may be replaced by what is in it. -/
theorem setDirectory_of_directory? {d : Directory} (h : s.directory? p = some d) :
    s.setDirectory p d = s := by
  refine congrArg Store.mk (OrderedMap.ext_find? fun name => ?_)
  rw [OrderedMap.find?_insert]
  split
  next heq =>
    rw [Std.LawfulEqCmp.eq_of_compare heq]
    exact h.symm
  · rfl

theorem find?_without (s : Store) (p : Place) (name : String) :
    (s.without p).directories.find? name =
      if isWithin p name then none else s.directories.find? name := by
  rw [without, OrderedMap.find?_ofList_filter s.directories (fun name => !isWithin p name)]
  cases isWithin p name <;> rfl

/-- Where no directory is, nothing can be removed. -/
theorem without_eq_self (htree : s.IsTree) (h : s.directory? p = none) : s.without p = s := by
  refine congrArg Store.mk (OrderedMap.ext_find? fun name => (s.find?_without p name).trans ?_)
  split
  next hwithin =>
    refine (Option.not_isSome_iff_eq_none.1 fun hname => ?_).symm
    have hsome := htree.above hwithin hname
    rw [h] at hsome
    cases hsome
  · rfl

/-- A store has no more files than another one if its directories are empty or also in the other. -/
theorem file?_eq_none_of_directory? (h : s.file? q = none)
    (hdirectory : ∀ d, s'.directory? q.dropLast = some d →
      d = .empty ∨ s.directory? q.dropLast = some d) : s'.file? q = none := by
  rw [file?] at h ⊢
  cases hlast : q.getLast? with
  | none => rfl
  | some name =>
    rw [hlast] at h
    cases hd : s'.directory? q.dropLast with
    | none => rfl
    | some d =>
      rcases hdirectory d hd with rfl | hd'
      · rfl
      · rw [hd'] at h
        exact h

end Store

open Store (isWithin)

namespace FileAction

/-! ## Removing and making directories -/

variable {s s' : Store}

/-- A directory that is removed is not the root, and everything within it goes. -/
theorem removeAll_ok {path : Path} (h : (removeAll path).run s = (.ok (), s')) :
    Place.ofPath path ≠ [] ∧ s' = s.without (.ofPath path) := by
  obtain ⟨files, q, hget, h⟩ := ok_of_run_bind h
  cases hget
  dsimp only at h
  split at h
  · cases h
  split at h
  · cases h
  next hplace =>
    cases h
    exact ⟨fun heq => hplace (by rw [heq]; simp), rfl⟩

/-- A directory other than the root is removed if its name does not end in dots. -/
theorem run_removeAll {path : Path} {d : Directory} (hplace : Place.ofPath path ≠ [])
    (hdots : path.endsInDots = false) (hdirectory : s.directory? (.ofPath path) = some d) :
    (removeAll path).run s = (.ok (), s.without (.ofPath path)) := by
  rw [removeAll, run_bind_ok (run_get _)]
  simp only [hdirectory, hdots, List.isEmpty_iff, hplace, Option.isNone_some, Bool.false_eq_true,
    if_false, Bool.false_or]
  rfl

theorem run_makeEach_cons (p : Place) (ps : List Place) (s : Store) :
    (makeEach (p :: ps)).run s =
      if (s.file? p).isSome then (.error .inaccessible, s)
      else (makeEach ps).run (if (s.directory? p).isNone then s.setDirectory p .empty else s) := by
  rw [makeEach, run_bind_ok (run_get _)]
  dsimp only
  split
  · rfl
  split
  · rfl
  · rfl

/-- Where a directory is made, an empty one is found, unless there was one. -/
theorem makeEach_ok {ps : List Place} (h : (makeEach ps).run s = (.ok (), s')) (name : String) :
    s'.directories.find? name = (s.directories.find? name).or
      (if name ∈ ps.map Place.name then some .empty else none) := by
  induction ps generalizing s with
  | nil =>
    cases h
    exact Option.or_none.symm
  | cons p ps ih =>
    rw [run_makeEach_cons] at h
    split at h
    · cases h
    rw [ih h, List.map_cons]
    by_cases hname : name = p.name
    · subst hname
      cases hp : s.directory? p with
      | none =>
        have hmade := s.directory?_setDirectory_self p .empty
        rw [Store.directory?] at hp hmade
        simp [hp, hmade]
      | some d =>
        rw [Store.directory?] at hp
        simp [hp]
    · have hkept : (s.setDirectory p .empty).directories.find? name = s.directories.find? name :=
        OrderedMap.find?_insert_of_ne _ _ hname
      simp only [List.mem_cons, hname, false_or]
      split
      · rw [hkept]
      · rfl

/-- Directories can be made where there is no file. -/
theorem exists_run_makeEach {ps : List Place} (h : ∀ p ∈ ps, s.file? p = none) :
    ∃ s', (makeEach ps).run s = (.ok (), s') := by
  induction ps generalizing s with
  | nil => exact ⟨s, rfl⟩
  | cons p ps ih =>
    rw [run_makeEach_cons, h p List.mem_cons_self, if_neg (by simp)]
    refine ih fun q hq => ?_
    have hfile := h q (List.mem_cons_of_mem _ hq)
    split
    · refine Store.file?_eq_none_of_directory? hfile fun d hd => ?_
      by_cases hname : Place.name q.dropLast = p.name
      · rw [Store.directory?, hname] at hd
        exact .inl (Option.some.inj (hd.symm.trans (s.directory?_setDirectory_self p .empty)))
      · rw [Store.directory?_setDirectory_of_ne _ _ hname] at hd
        exact .inr hd
    · exact hfile

/-! ## Writing files -/

/-- A file with a plain name is written into its directory, unless a directory has its name. -/
theorem run_write_join {dir : Path} {name : String} {d : Directory} (content : FileContent)
    (hname : IsPlainName name) (hdir : s.directory? (.ofPath dir) = some d)
    (hfree : s.directory? (Place.ofPath dir ++ [name]) = none) :
    (write (dir.join name) content).run s =
      (.ok (), s.setDirectory (.ofPath dir) (d.insert name content)) := by
  rw [write, run_bind_ok (run_get _)]
  simp only [Place.ofPath_join hname, List.getLast?_concat, List.dropLast_concat, hdir, hfree,
    hname.endsAsDirectory_join]
  rfl

end FileAction

/-- Files with plain names are written into their directory, if there is no directory in it. -/
theorem run_writeEntries {dir : Path} {es : List (String × String)} {s : Store} {d : Directory}
    (hnames : ∀ e ∈ es, IsPlainName e.1) (hdir : s.directory? (.ofPath dir) = some d)
    (hfree : ∀ e ∈ es, s.directory? (Place.ofPath dir ++ [e.1]) = none) :
    (writeEntries dir es).run s =
      (.ok (), s.setDirectory (.ofPath dir) (d.insertMany (es.map fun e => (e.1, .text e.2)))) := by
  induction es generalizing s d with
  | nil =>
    have hnone : d.insertMany [] = d := rfl
    rw [List.map_nil, hnone, Store.setDirectory_of_directory? hdir]
    rfl
  | cons e es ih =>
    obtain ⟨name, text⟩ := e
    have hwrite := FileAction.run_write_join (.text text) (hnames _ List.mem_cons_self) hdir
      (hfree _ List.mem_cons_self)
    have hrest : ∀ e ∈ es, IsPlainName e.1 := fun e he => hnames e (List.mem_cons_of_mem _ he)
    have hfree' : ∀ e ∈ es, (s.setDirectory (.ofPath dir) (d.insert name (.text text))).directory?
        (Place.ofPath dir ++ [e.1]) = none := by
      intro e he
      rw [Store.directory?_setDirectory_of_ne _ _ (Place.name_concat_ne _ (hrest e he).ne_empty)]
      exact hfree e (List.mem_cons_of_mem _ he)
    rw [writeEntries, run_bind_ok hwrite, ih hrest (s.directory?_setDirectory_self _ _) hfree',
      Store.setDirectory_setDirectory]
    rfl

/-! ## Replacing a directory -/

/-- What is in a store after a directory was replaced by files: the files in the directory, nothing below
it, and elsewhere what was there before, with empty directories above it where there were none. -/
structure Store.Replaced (before : Store) (dir : Path) (files : FileSet) (after : Store) : Prop where
  directory : after.directory? (.ofPath dir) = some (files.mapValues .text)
  below : ∀ name, isWithin (.ofPath dir) name = true → name ≠ (Place.ofPath dir).name →
    after.directories.find? name = none
  elsewhere : ∀ name, isWithin (.ofPath dir) name = false →
    after.directories.find? name = (before.directories.find? name).or
      (if name ∈ (Place.ofPath dir).chain.map Place.name then some .empty else none)

section
variable {files : FileSet} {dir : Path} {s s' : Store}

/-- Before files are written, everything within their directory is removed, if anything is there. -/
theorem FileSet.of_writeTo (htree : s.IsTree) (hdir : dir.text ≠ "")
    (h : (files.writeTo dir).run s = (.ok (), s')) :
    Place.ofPath dir ≠ [] ∧ (FileAction.createAll dir >>= fun _ => writeEntries dir files.entries).run
      (s.without (.ofPath dir)) = (.ok (), s') := by
  rw [FileSet.writeTo, run_bind_ok (run_get _)] at h
  split at h
  next =>
    obtain ⟨_, s₁, hremove, hwrite⟩ := ok_of_run_bind h
    obtain ⟨hplace, rfl⟩ := FileAction.removeAll_ok hremove
    exact ⟨hplace, hwrite⟩
  next hcontains =>
    have hmissing : ¬(s.directory? (.ofPath dir)).isSome :=
      fun hsome => hcontains (by simp [Store.contains, hdir, hsome])
    refine ⟨fun hroot => hmissing (hroot ▸ htree.root), ?_⟩
    rw [Store.without_eq_self htree (Option.not_isSome_iff_eq_none.1 hmissing)]
    exact h

/-- Once everything within a directory is removed, its place is empty when the files are written. -/
theorem FileSet.run_writeEntries_cleared {s₂ : Store} (hplace : Place.ofPath dir ≠ [])
    (hnames : ∀ name ∈ files.keys, IsPlainName name)
    (hmade : (FileAction.createAll dir).run (s.without (.ofPath dir)) = (.ok (), s₂)) :
    ∃ s', (writeEntries dir files.entries).run s₂ = (.ok (), s') ∧ s.Replaced dir files s' := by
  have hfind : ∀ name, s₂.directories.find? name =
      (if isWithin (.ofPath dir) name then none else s.directories.find? name).or
        (if name ∈ (Place.ofPath dir).chain.map Place.name then some .empty else none) := fun name => by
    rw [FileAction.makeEach_ok hmade, Store.find?_without]
  have hbelow : ∀ name, isWithin (.ofPath dir) name = true → name ≠ (Place.ofPath dir).name →
      s₂.directories.find? name = none := by
    intro name hwithin hne
    have hchain : name ∉ (Place.ofPath dir).chain.map Place.name :=
      fun hmem => hne (Place.eq_of_isWithin_chain hplace hmem hwithin)
    rw [hfind, if_pos hwithin, if_neg hchain, Option.or_none]
  have hempty : s₂.directory? (.ofPath dir) = some .empty := by
    rw [Store.directory?, hfind, if_pos (Place.isWithin_self _), if_pos (Place.name_mem_chain hplace),
      Option.none_or]
  have hplain : ∀ e ∈ files.entries, IsPlainName e.1 := fun e he => hnames e.1 (List.mem_map_of_mem he)
  have hfree : ∀ e ∈ files.entries, s₂.directory? (Place.ofPath dir ++ [e.1]) = none := fun e he =>
    hbelow _ (Place.isWithin_concat_self hplace e.1) (Place.name_concat_ne _ (hplain e he).ne_empty)
  have htexts : OrderedMap.empty.insertMany (files.entries.map fun e => (e.1, FileContent.text e.2)) =
      files.mapValues .text := OrderedMap.ofList_entries (OrderedMap.mapValues FileContent.text files)
  refine ⟨_, run_writeEntries hplain hempty hfree, ?_, fun name hwithin hne => ?_,
    fun name hwithin => ?_⟩
  · rw [Store.directory?_setDirectory_self, htexts]
  · exact (OrderedMap.find?_insert_of_ne _ _ hne).trans (hbelow name hwithin hne)
  · have hne : name ≠ (Place.ofPath dir).name := by
      rintro rfl
      rw [Place.isWithin_self] at hwithin
      cases hwithin
    have hkept := hfind name
    rw [hwithin] at hkept
    exact (OrderedMap.find?_insert_of_ne _ _ hne).trans hkept

/-- The files of a set take the place of whatever was in a directory, if they can be written. -/
theorem FileSet.writeTo_ok (htree : s.IsTree) (hdir : dir.text ≠ "")
    (hnames : ∀ name ∈ files.keys, IsPlainName name) (h : (files.writeTo dir).run s = (.ok (), s')) :
    Place.ofPath dir ≠ [] ∧ s.Replaced dir files s' := by
  obtain ⟨hplace, hrest⟩ := of_writeTo htree hdir h
  obtain ⟨_, s₂, hmade, hwrite⟩ := ok_of_run_bind hrest
  obtain ⟨s'', hwritten, hreplaced⟩ := run_writeEntries_cleared hplace hnames hmade
  rw [hwrite] at hwritten
  cases hwritten
  exact ⟨hplace, hreplaced⟩

/-- They can be written if no file is at the place of the directory or above it. -/
theorem FileSet.exists_run_writeTo (htree : s.IsTree) (hdir : dir.text ≠ "")
    (hplace : Place.ofPath dir ≠ []) (hdots : dir.endsInDots = false)
    (hnames : ∀ name ∈ files.keys, IsPlainName name)
    (hfree : ∀ p ∈ (Place.ofPath dir).chain, s.file? p = none) :
    ∃ s', (files.writeTo dir).run s = (.ok (), s') := by
  have hcleared : ∀ p ∈ (Place.ofPath dir).chain, (s.without (.ofPath dir)).file? p = none := by
    refine fun p hp => Store.file?_eq_none_of_directory? (hfree p hp) fun d hd => .inr ?_
    rw [Store.directory?, Store.find?_without] at hd
    split at hd
    · cases hd
    · exact hd
  obtain ⟨s₂, hmade⟩ := FileAction.exists_run_makeEach hcleared
  obtain ⟨s', hwrite, -⟩ := run_writeEntries_cleared hplace hnames hmade
  have hrest : (FileAction.createAll dir >>= fun _ => writeEntries dir files.entries).run
      (s.without (.ofPath dir)) = (.ok (), s') := (run_bind_ok hmade).trans hwrite
  refine ⟨s', ?_⟩
  rw [FileSet.writeTo, run_bind_ok (run_get _)]
  cases hdirectory : s.directory? (.ofPath dir) with
  | some d =>
    rw [if_pos (by simp [Store.contains, hdir, hdirectory]),
      run_bind_ok (FileAction.run_removeAll hplace hdots hdirectory), hrest]
  | none =>
    have hfile := hfree _ (Place.mem_chain hplace)
    rw [if_neg (by simp [Store.contains, hdirectory, hfile])]
    rw [Store.without_eq_self htree hdirectory] at hrest
    exact hrest

namespace Store.Replaced

variable (h : s.Replaced dir files s')
include h

/-- After a directory was replaced, there is a directory at its place, and at all places above it. -/
theorem isSome_of_mem_chain (hplace : Place.ofPath dir ≠ []) {name : String}
    (hname : name ∈ (Place.ofPath dir).chain.map Place.name) : (s'.directories.find? name).isSome := by
  cases hwithin : isWithin (.ofPath dir) name with
  | true =>
    rw [Place.eq_of_isWithin_chain hplace hname hwithin]
    exact Option.isSome_of_eq_some h.directory
  | false =>
    rw [h.elsewhere name hwithin, if_pos hname, Option.isSome_or]
    exact Bool.or_true _

/-- What was outside the directory is still there. -/
theorem isSome_of_elsewhere {name : String} (hwithin : isWithin (.ofPath dir) name = false)
    (hname : (s.directories.find? name).isSome) : (s'.directories.find? name).isSome := by
  rw [h.elsewhere name hwithin, Option.isSome_or, hname]
  rfl

/-- A tree in which a directory was replaced is a tree. -/
theorem isTree (htree : s.IsTree) (hplace : Place.ofPath dir ≠ []) : s'.IsTree := by
  have hsound := Place.sound_ofPath dir
  have hroot : (s'.directories.find? "").isSome :=
    h.isSome_of_elsewhere (Place.isWithin_root hsound hplace) htree.root
  refine ⟨hroot, fun {q name} hq hname => ?_⟩
  by_cases hempty : q.name = ""
  · rw [directory?, hempty]
    exact hroot
  by_cases hchain : name ∈ (Place.ofPath dir).chain.map Place.name
  · exact h.isSome_of_mem_chain hplace (Place.mem_chain_of_isWithin hsound hchain hq hempty)
  -- anything else was there before, and not within the directory
  have hwithin : isWithin (.ofPath dir) name = false := by
    rw [← Bool.not_eq_true]
    intro hwithin
    have hne : name ≠ (Place.ofPath dir).name := fun heq => hchain (heq ▸ Place.name_mem_chain hplace)
    rw [h.below name hwithin hne] at hname
    cases hname
  rw [h.elsewhere name hwithin, if_neg hchain, Option.or_none] at hname
  refine h.isSome_of_elsewhere ?_ (htree.above hq hname)
  rw [← Bool.not_eq_true]
  intro habove
  rw [Place.isWithin_trans hsound hplace habove hq] at hwithin
  cases hwithin

/-- The texts of a directory that was replaced are those of its files. -/
theorem text?_join {name : String} (hname : IsPlainName name) :
    s'.text? (dir.join name) = files.find? name := by
  have hfile : s'.file? (Place.ofPath dir ++ [name]) = (files.find? name).map .text := by
    simp only [file?, List.getLast?_concat, List.dropLast_concat, h.directory, bind, Option.bind_some,
      OrderedMap.find?_mapValues]
  rw [text?, hname.endsAsDirectory_join, Place.ofPath_join hname, hfile]
  cases files.find? name <;> rfl

theorem fileNames?_eq (hdir : dir.text ≠ "") : s'.fileNames? dir = some files.keys := by
  rw [fileNames?, if_neg hdir, h.directory, Option.map_some, OrderedMap.keys, OrderedMap.mapValues,
    List.map_map]
  rfl

end Store.Replaced

end

end BackboneLab
