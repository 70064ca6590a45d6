import BackboneLab.Files.Store
import BackboneLab.Proofs.Text.Split
import Mathlib.Data.List.Infix
import Mathlib.Data.List.Induction

/-!
# Places and their names

A plain name in a directory leads one part further than the directory (`Place.ofPath_join`). The parts of
a place have no slash in them (`Place.Sound`), so that the places above a directory can be told from its
name: they are the root and the places of its chain (`Place.mem_chain_of_isWithin`).
-/

namespace BackboneLab

open Store (isWithin)

/-! ## Names in a directory -/

/-- A name of one part, which is neither empty nor made of dots only. -/
def IsPlainName (name : String) : Prop := '/' ∉ name.toList ∧ ∃ c ∈ name.toList, c ≠ '.'

namespace IsPlainName
variable {name : String}

theorem ne_nil (h : IsPlainName name) : name.toList ≠ [] := by
  obtain ⟨c, hc, -⟩ := h.2
  exact List.ne_nil_of_mem hc

theorem ne_empty (h : IsPlainName name) : name ≠ "" :=
  fun hempty => h.ne_nil (congrArg String.toList hempty)

theorem ne_dot (h : IsPlainName name) : name.toList ≠ ['.'] := by
  obtain ⟨c, hc, hdot⟩ := h.2
  exact fun heq => hdot (List.mem_singleton.1 (heq ▸ hc))

theorem ne_dots (h : IsPlainName name) : name.toList ≠ ['.', '.'] := by
  obtain ⟨c, hc, hdot⟩ := h.2
  intro heq
  rw [heq] at hc
  simp only [List.mem_cons, List.not_mem_nil, or_false, or_self] at hc
  exact hdot hc

theorem head?_ne (h : IsPlainName name) : name.toList.head? ≠ some '/' :=
  fun heq => h.1 (List.mem_of_head? heq)

theorem follow_eq (h : IsPlainName name) (p : Place) : p.follow name.toList = p ++ [name] := by
  rw [Place.follow, if_neg (not_or.2 ⟨h.ne_nil, h.ne_dot⟩), if_neg h.ne_dots, String.ofList_toList]

/-- Joined to a directory, the name is the last part, behind parts that lead to the directory. -/
theorem splitOn_join (h : IsPlainName name) (dir : Path) :
    ∃ parts, Text.splitOn '/' (dir.join name).text.toList = parts ++ [name.toList] ∧
      parts.foldl Place.follow [] = Place.ofPath dir := by
  have hname : Text.splitOn '/' name.toList = [name.toList] := Text.splitOn_eq_singleton h.1
  rw [Path.join, String.toList_ofList, Path.joinChars, if_neg h.head?_ne, Place.ofPath]
  split
  next hdir =>
    rcases hdir with hdir | hdir
    · rw [hdir, List.nil_append, hname]
      exact ⟨[], rfl, rfl⟩
    · obtain ⟨front, hfront⟩ := List.getLast?_eq_some_iff.1 hdir
      rw [hfront, List.append_assoc, List.singleton_append, Text.splitOn_append_cons,
        Text.splitOn_append_cons, hname]
      refine ⟨_, rfl, ?_⟩
      rw [List.foldl_append]
      rfl
  next =>
    rw [Text.splitOn_append_cons, hname]
    exact ⟨_, rfl, rfl⟩

theorem endsAsDirectory_join (h : IsPlainName name) (dir : Path) :
    (dir.join name).endsAsDirectory = false := by
  obtain ⟨parts, hparts, -⟩ := h.splitOn_join dir
  rw [Path.endsAsDirectory, hparts, List.getLast?_concat]
  simp only [h.ne_nil, h.ne_dot, h.ne_dots, Bool.or_eq_false_iff, beq_eq_false_iff_ne, ne_eq,
    not_false_eq_true, and_self]

end IsPlainName

namespace Place

/-- A plain name leads one part further than its directory. -/
theorem ofPath_join {name : String} (h : IsPlainName name) (dir : Path) :
    ofPath (dir.join name) = ofPath dir ++ [name] := by
  obtain ⟨parts, hparts, hfollow⟩ := h.splitOn_join dir
  rw [ofPath, hparts, List.foldl_append, hfollow]
  exact h.follow_eq _

/-! ## Names of places -/

/-- Every part of the place is a name of one part. -/
def Sound (p : Place) : Prop := ∀ part ∈ p, part ≠ "" ∧ '/' ∉ part.toList

theorem Sound.follow {p : Place} (hp : p.Sound) {part : List Char} (h : '/' ∉ part) :
    (p.follow part).Sound := by
  rw [Place.follow]
  split
  · exact hp
  next hpart =>
    split
    · exact fun other hother => hp other (List.mem_of_mem_dropLast hother)
    · intro other hother
      rcases List.mem_append.1 hother with hother | hother
      · exact hp other hother
      · rw [List.mem_singleton.1 hother, String.toList_ofList]
        refine ⟨fun hempty => hpart (.inl ?_), h⟩
        simpa using congrArg String.toList hempty

theorem sound_ofPath (path : Path) : (ofPath path).Sound := by
  have hall : ∀ (parts : List (List Char)) (p : Place), p.Sound → (∀ part ∈ parts, '/' ∉ part) →
      (parts.foldl Place.follow p).Sound := by
    intro parts
    induction parts with
    | nil => exact fun p hp _ => hp
    | cons part parts ih =>
      exact fun p hp h => ih _ (hp.follow (h part List.mem_cons_self))
        fun other hother => h other (List.mem_cons_of_mem _ hother)
  exact hall _ [] (fun _ h => nomatch h) fun part hpart => Text.not_mem_of_mem_splitOn hpart

@[simp] theorem name_nil : name [] = "" := rfl

theorem toList_name (p : Place) : p.name.toList = Text.join ['/'] (p.map String.toList) :=
  String.toList_ofList

theorem toList_name_concat {p : Place} (hp : p ≠ []) (part : String) :
    (name (p ++ [part])).toList = p.name.toList ++ '/' :: part.toList := by
  rw [toList_name, toList_name, List.map_append, List.map_singleton]
  induction p with
  | nil => exact absurd rfl hp
  | cons first p ih =>
    cases p with
    | nil => simp [Text.join]
    | cons second p =>
      have hrest := ih (List.cons_ne_nil _ _)
      simp only [List.map_cons, List.cons_append, Text.join] at hrest ⊢
      rw [hrest]
      simp only [List.append_assoc]

/-- One part further is another directory. -/
theorem name_concat_ne (p : Place) {part : String} (hpart : part ≠ "") :
    name (p ++ [part]) ≠ p.name := by
  intro heq
  have hchars := congrArg String.toList heq
  by_cases hp : p = []
  · rw [hp, List.nil_append, toList_name [part]] at hchars
    exact hpart (String.toList_inj.1 hchars)
  · rw [toList_name_concat hp] at hchars
    exact absurd (List.append_right_eq_self.1 hchars) (List.cons_ne_nil _ _)

/-- A place above another one has a name with which the other's begins. -/
theorem name_take_begins (p : Place) (k : Nat) : (name (p.take k)).toList <+: p.name.toList := by
  induction p using List.reverseRecOn with
  | nil => rw [List.take_nil]
  | append_singleton p part ih =>
    rcases Nat.lt_or_ge p.length k with hk | hk
    · rw [List.take_of_length_le (by rw [List.length_append, List.length_singleton]; omega)]
    · rw [List.take_append_of_le_length hk]
      refine ih.trans ?_
      by_cases hp : p = []
      · rw [hp]
        exact List.nil_prefix
      · rw [toList_name_concat hp]
        exact List.prefix_append _ _

theorem Sound.name_ne {p : Place} (h : p.Sound) (hp : p ≠ []) : p.name ≠ "" := by
  obtain ⟨part, rest, rfl⟩ := List.exists_cons_of_ne_nil hp
  have hbegins : (name [part]).toList <+: (name (part :: rest)).toList :=
    name_take_begins (part :: rest) 1
  intro hempty
  rw [hempty, String.toList_empty, List.prefix_nil, toList_name] at hbegins
  exact (h part List.mem_cons_self).1 (String.toList_inj.1 hbegins)

theorem chain_concat (p : Place) (part : String) : chain (p ++ [part]) = chain p ++ [p ++ [part]] := by
  rw [chain, List.length_append, List.length_singleton, List.range_succ, List.map_append,
    List.map_singleton, List.take_of_length_le (by simp), chain, List.append_left_inj]
  refine List.map_congr_left fun k hk => List.take_append_of_le_length ?_
  exact Nat.succ_le_of_lt (List.mem_range.1 hk)

/-- A place is the last one of its chain. -/
theorem mem_chain {p : Place} (hp : p ≠ []) : p ∈ p.chain := by
  obtain ⟨front, part, rfl⟩ := (List.eq_nil_or_concat' p).resolve_left hp
  rw [chain_concat]
  exact List.mem_append_right _ List.mem_cons_self

theorem name_mem_chain {p : Place} (hp : p ≠ []) : p.name ∈ p.chain.map name :=
  List.mem_map_of_mem (mem_chain hp)

/-! ## Places within a place -/

variable {p q : Place} {dir : String}

theorem isWithin_iff (hp : p ≠ []) :
    isWithin p dir = true ↔ dir = p.name ∨ p.name.toList ++ ['/'] <+: dir.toList := by
  rw [isWithin, String.toList_append, Bool.or_eq_true, Bool.or_eq_true, beq_iff_eq,
    List.isPrefixOf_iff_prefix]
  simp only [List.isEmpty_iff, hp, false_or]
  rfl

theorem isWithin_self (p : Place) : isWithin p p.name = true := by
  simp [isWithin]

/-- A directory is within the one that it is in. -/
theorem isWithin_concat_self (hp : p ≠ []) (part : String) :
    isWithin p (name (p ++ [part])) = true := by
  rw [isWithin_iff hp, toList_name_concat hp]
  exact .inr ⟨part.toList, (List.append_cons _ _ _).symm⟩

/-- What is within a place, but not the place itself, has a longer name. -/
theorem length_lt_of_isWithin (h : isWithin p dir = true) (hne : dir ≠ p.name) (hp : p ≠ []) :
    p.name.toList.length < dir.toList.length := by
  have hlength := (((isWithin_iff hp).1 h).resolve_left hne).length_le
  rw [List.length_append, List.length_singleton] at hlength
  exact hlength

/-- Of the places above a place only the place itself is within it. -/
theorem eq_of_isWithin_chain (hp : p ≠ []) (hchain : dir ∈ p.chain.map name)
    (h : isWithin p dir = true) : dir = p.name := by
  by_contra hne
  have hlt := length_lt_of_isWithin h hne hp
  rw [chain, List.map_map] at hchain
  obtain ⟨k, -, rfl⟩ := List.mem_map.1 hchain
  exact absurd (name_take_begins p (k + 1)).length_le (Nat.not_le.2 hlt)

/-- The root is only within itself. -/
theorem name_eq_of_isWithin_root (h : isWithin p "" = true) : p.name = "" := by
  by_cases hp : p = []
  · rw [hp, name_nil]
  rcases (isWithin_iff hp).1 h with heq | hbegins
  · exact heq.symm
  · exact absurd (List.prefix_nil.1 hbegins)
      (List.append_ne_nil_of_right_ne_nil _ (List.cons_ne_nil _ _))

theorem isWithin_root (h : p.Sound) (hp : p ≠ []) : isWithin p "" = false := by
  rw [← Bool.not_eq_true]
  exact fun hroot => h.name_ne hp (name_eq_of_isWithin_root hroot)

/-- What is within a place that is within a third one is within the third one. -/
theorem isWithin_trans (hsound : p.Sound) (hp : p ≠ []) (hq : isWithin p q.name = true)
    (h : isWithin q dir = true) : isWithin p dir = true := by
  have hq' : q ≠ [] := by
    rintro rfl
    rw [name_nil, isWithin_root hsound hp] at hq
    cases hq
  rw [isWithin_iff hp] at hq ⊢
  rw [isWithin_iff hq'] at h
  rcases h with rfl | h
  · exact hq
  · rcases hq with hq | hq
    · exact .inr (hq ▸ h)
    · exact .inr (hq.trans ((List.prefix_append _ _).trans h))

/-- Above a place are the place itself and what is above the directory that it is in. -/
theorem isWithin_concat {part : String} (hpart : '/' ∉ part.toList)
    (h : isWithin q (name (p ++ [part])) = true) :
    q.name = name (p ++ [part]) ∨ isWithin q p.name = true := by
  by_cases hq : q = []
  · exact .inr (by rw [hq]; rfl)
  rcases (isWithin_iff hq).1 h with hname | hbegins
  · exact .inl hname.symm
  right
  by_cases hp : p = []
  · -- the name of the place is its part, which has no slash
    rw [hp, List.nil_append, toList_name [part]] at hbegins
    exact absurd (hbegins.subset (List.mem_append_right _ List.mem_cons_self)) hpart
  rw [toList_name_concat hp] at hbegins
  rw [isWithin_iff hq]
  exact (Text.prefix_of_prefix_append_cons hpart hbegins).imp (fun heq => (String.toList_inj.1 heq).symm) id

/-- What is above a place of a chain is the root or of the chain. -/
theorem mem_chain_of_isWithin (hp : Sound p) (hdir : dir ∈ p.chain.map name)
    (h : isWithin q dir = true) (hq : q.name ≠ "") : q.name ∈ p.chain.map name := by
  induction p using List.reverseRecOn generalizing dir with
  | nil => cases hdir
  | append_singleton p part ih =>
    have hfront : Sound p := fun other hother => hp other (List.mem_append_left _ hother)
    have hpart := (hp part (List.mem_append_right _ List.mem_cons_self)).2
    rw [chain_concat, List.map_append, List.mem_append] at hdir ⊢
    rcases hdir with hdir | hdir
    · exact .inl (ih hfront hdir h)
    rw [List.mem_singleton.1 hdir] at h
    rcases isWithin_concat hpart h with heq | hwithin
    · exact .inr (List.mem_singleton.2 heq)
    · -- above the directory of the place, which is the root or the last place of its own chain
      by_cases hp' : p = []
      · subst hp'
        exact absurd (name_eq_of_isWithin_root hwithin) hq
      · exact .inl (ih hfront (name_mem_chain hp') hwithin)

end Place

end BackboneLab
