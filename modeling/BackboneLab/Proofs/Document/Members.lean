import BackboneLab.Proofs.Document.Wire

/-!
# Members left out and members added

The members of a record may be left out by name (`Datum.keepMembers`), and members with other names than
the known ones may be added, which makes a tree that agrees with the first on the known ones
(`Datum.AgreeOn`). A member that takes a default takes it exactly if it is left out
(`Fields.withDefault_filter`), and a record is read alike from trees that agree (`Datum.AgreeOn.decode_eq`).
-/

namespace BackboneLab

/-! ## Leaving members out -/

namespace Datum

/-- A tree without the members of its record whose names are not kept. -/
def keepMembers (keep : String → Bool) : Datum → Datum
  | .record style ms =>
    .record style <| ms.filter fun m =>
      match m.1 with
      | .plain name => keep name
      | .unpaired => true
  | d => d

/-- A tree with each member of its record changed according to its name. -/
def mapMembers (f : String → Datum → Datum) : Datum → Datum
  | .record style ms =>
    .record style <| ms.map fun m =>
      match m.1 with
      | .plain name => (m.1, f name m.2)
      | .unpaired => m
  | d => d

variable {keep : String → Bool} {f : String → Datum → Datum} {d : Datum}

theorem keepMembers_object (ms : List (String × Datum)) :
    (Datum.object ms).keepMembers keep = .object (ms.filter fun m => keep m.1) := by
  rw [object, keepMembers, List.filter_map, object]
  rfl

theorem mapMembers_object (ms : List (String × Datum)) :
    (Datum.object ms).mapMembers f = .object (ms.map fun m => (m.1, f m.1 m.2)) := by
  rw [object, mapMembers, List.map_map, object, List.map_map]
  rfl

/-! What JSON keeps of a tree, it keeps as it is. -/

theorem inJson_inJson (d : Datum) : d.inJson.inJson = d.inJson := by
  induction d using Datum.induction with
  | null | bool | number | nonFinite | moment => simp only [inJson]
  | text l => cases l <;> simp only [inJson, Literal.inJson]
  | list xs ih =>
    simp only [inJson, inJsonItems_eq_map, List.map_map, list.injEq]
    exact List.map_congr_left ih
  | record style ms ih =>
    simp only [inJson, inJsonMembers_eq_map, List.map_map, record.injEq, true_and]
    refine List.map_congr_left fun m hm => Prod.ext ?_ (ih m hm)
    cases h : m.1 <;> simp only [Function.comp_apply, h, Literal.inJson]

theorem inJson_record_eq_iff {ms : List (Literal × Datum)} :
    (record .object ms).inJson = .record .object ms ↔
      ∀ m ∈ ms, m.1.inJson = m.1 ∧ m.2.inJson = m.2 := by
  rw [inJson, inJsonMembers_eq_map, record.injEq, and_iff_right rfl]
  conv_lhs => rhs; rw [← List.map_id ms]
  simp only [List.map_inj_left, id_eq, Prod.ext_iff]

/-- A record of which JSON keeps everything is an object. -/
theorem style_eq_of_inJson_eq {style : RecordStyle} {ms : List (Literal × Datum)}
    (h : (record style ms).inJson = .record style ms) : style = .object := by
  rw [inJson] at h
  exact (record.inj h).1.symm

theorem inJson_keepMembers (h : d.inJson = d) : (d.keepMembers keep).inJson = d.keepMembers keep := by
  cases d with
  | record style ms =>
    obtain rfl := style_eq_of_inJson_eq h
    exact inJson_record_eq_iff.2 fun m hm => inJson_record_eq_iff.1 h m (List.mem_filter.1 hm).1
  | _ => exact h

theorem inJson_mapMembers (hf : ∀ name d, d.inJson = d → (f name d).inJson = f name d)
    (h : d.inJson = d) : (d.mapMembers f).inJson = d.mapMembers f := by
  cases d with
  | record style ms =>
    obtain rfl := style_eq_of_inJson_eq h
    refine inJson_record_eq_iff.2 fun m' hm' => ?_
    obtain ⟨⟨name, x⟩, hm, rfl⟩ := List.mem_map.1 hm'
    obtain ⟨hname, hx⟩ := inJson_record_eq_iff.1 h _ hm
    cases name with
    | plain name => exact ⟨hname, hf name x hx⟩
    | unpaired => exact ⟨hname, hx⟩
  | _ => exact h

end Datum

theorem lookup_filter_fst {β : Type} {keep : String → Bool} {name : String}
    (ms : List (String × β)) :
    (ms.filter fun m => keep m.1).lookup name = if keep name then ms.lookup name else none := by
  induction ms with
  | nil => simp
  | cons m ms ih =>
    obtain ⟨key, x⟩ := m
    by_cases hname : name = key
    · subst hname
      cases hkeep : keep name with
      | true => simp [hkeep]
      | false => simpa [hkeep] using ih
    · have hne : (name == key) = false := beq_false_of_ne hname
      cases hkeep : keep key <;> simp [List.lookup_cons, hkeep, hne, ih]

namespace Fields
variable {α : Type} [Wire α] {ms : List (String × Datum)} {keep : String → Bool} {name : String}

/-- A member takes its default exactly if it is left out. -/
theorem withDefault_filter {d : Datum} {x default : α} (hfind : ms.lookup name = some d)
    (hdecode : decode d = some x) :
    (⟨ms.filter fun m => keep m.1, true⟩ : Fields).withDefault name default =
      some (if keep name then x else default) := by
  rw [withDefault, find?, lookup_filter_fst]
  cases hkeep : keep name with
  | true => simp only [if_true, hfind, hdecode]
  | false => simp only [Bool.false_eq_true, if_false]

end Fields

/-- A record of which members are left out is put together from the rest of its members. -/
theorem decode_keepMembers {α : Type} [Wire α] {x : α} {names : List String}
    {ms : List (String × Datum)} {build : Fields → Option α} {keep : String → Bool} {d : Datum}
    (hd : d = .object ms) (hdecode : ∀ d, (decode d : Option α) = (Fields.ofDatum? names d).bind build)
    (hnames : (ms.map (·.1)).Sublist names) (hnodup : names.Nodup)
    (hbuild : build ⟨ms.filter fun m => keep m.1, true⟩ = some x) :
    decode (d.keepMembers keep) = some x := by
  have hsub : ((ms.filter fun m => keep m.1).map (·.1)).Sublist names :=
    (List.filter_sublist.map _).trans hnames
  rw [hd, Datum.keepMembers_object, hdecode, Fields.ofDatum?_object hsub hnodup, Option.bind_some,
    hbuild]

/-! ## Adding members -/

/-- The members of two records have the same names in the same order, and related trees. -/
abbrev MembersAgree (inner : String → Datum → Datum → Prop) :
    List (String × Datum) → List (String × Datum) → Prop :=
  List.Forall₂ fun m m' => m.1 = m'.1 ∧ inner m.1 m.2 m'.2

/-- Two trees are the same, or they are objects that agree on the members with known names, whose trees
are related. Each may have any other members, anywhere among these. -/
inductive Datum.AgreeOn (names : List String) (inner : String → Datum → Datum → Prop) :
    Datum → Datum → Prop
  | same (d : Datum) : Datum.AgreeOn names inner d d
  | object {ms ms' : List (String × Datum)}
      (h : MembersAgree inner (ms.filter (·.1 ∈ names)) (ms'.filter (·.1 ∈ names))) :
      Datum.AgreeOn names inner (.object ms) (.object ms')

/-- Two trees are the same, or they are lists with related items. -/
inductive Datum.AgreeOnItems (inner : Datum → Datum → Prop) : Datum → Datum → Prop
  | same (d : Datum) : Datum.AgreeOnItems inner d d
  | list {xs ys : List Datum} (h : List.Forall₂ inner xs ys) :
      Datum.AgreeOnItems inner (.list xs) (.list ys)

section
variable {names : List String} {inner : String → Datum → Datum → Prop} {d d' : Datum}

theorem membersAgree_refl (hinner : ∀ name d, inner name d d) (ms : List (String × Datum)) :
    MembersAgree inner ms ms :=
  List.forall₂_same.2 fun m _ => ⟨rfl, hinner m.1 m.2⟩

/-- A member with an unknown name may be added anywhere. -/
theorem Datum.AgreeOn.insert (hinner : ∀ name d, inner name d d) {name : String} (hname : name ∉ names)
    (before after : List (String × Datum)) (x : Datum) :
    Datum.AgreeOn names inner (.object (before ++ after)) (.object (before ++ (name, x) :: after)) := by
  refine .object ?_
  rw [List.filter_append, List.filter_append, List.filter_cons_of_neg (by simpa using hname)]
  exact membersAgree_refl hinner _

namespace MembersAgree

theorem map_fst_eq {ms ms' : List (String × Datum)} (h : MembersAgree inner ms ms') :
    ms.map (·.1) = ms'.map (·.1) := by
  induction h with
  | nil => rfl
  | cons hm _ ih => rw [List.map_cons, List.map_cons, hm.1, ih]

theorem lookup {ms ms' : List (String × Datum)} (h : MembersAgree inner ms ms') (name : String) :
    Option.Rel (inner name) (ms.lookup name) (ms'.lookup name) := by
  induction h with
  | nil => exact .none
  | @cons m m' ms ms' hm _ ih =>
    obtain ⟨key, x⟩ := m
    obtain ⟨key', x'⟩ := m'
    obtain ⟨rfl, hx⟩ : key = key' ∧ inner key x x' := hm
    by_cases hname : name = key
    · subst hname
      simpa using Option.Rel.some hx
    · simpa [List.lookup_cons, beq_false_of_ne hname] using ih

end MembersAgree

/-- The known members of two records agree. -/
structure Fields.Agree (inner : String → Datum → Datum → Prop) (f f' : Fields) : Prop where
  members : MembersAgree inner f.members f'.members
  byName : f.byName = f'.byName

theorem Fields.Agree.refl (hinner : ∀ name d, inner name d d) (f : Fields) : f.Agree inner f :=
  ⟨membersAgree_refl hinner _, rfl⟩

/-- A member of two records that agree is read alike, if related trees of it are. -/
theorem Fields.Agree.withDefault_eq {α : Type} [Wire α] {f f' : Fields} (h : f.Agree inner f')
    (name : String) (default : α)
    (hdecode : ∀ x x', inner name x x' → (decode x : Option α) = decode x') :
    f.withDefault name default = f'.withDefault name default := by
  have hfind := h.members.lookup name
  rw [Fields.withDefault, Fields.withDefault, Fields.find?, Fields.find?]
  generalize f.members.lookup name = o, f'.members.lookup name = o' at hfind ⊢
  cases hfind with
  | none => rfl
  | some hrel => exact hdecode _ _ hrel

/-- From trees that agree, records are read with members that agree, or not at all. -/
theorem Datum.AgreeOn.fields (hinner : ∀ name d, inner name d d) (h : d.AgreeOn names inner d') :
    Option.Rel (Fields.Agree inner) (Fields.ofDatum? names d) (Fields.ofDatum? names d') := by
  cases h with
  | same =>
    cases Fields.ofDatum? names d with
    | none => exact .none
    | some f => exact .some (.refl hinner f)
  | @object ms ms' h =>
    simp only [Fields.ofDatum?, Datum.object, plainMembers_object, bind, Option.bind_some, h.map_fst_eq]
    split
    · exact .some ⟨h, rfl⟩
    · exact .none

/-- A record is read alike from trees that agree, if it is built alike from members that agree. -/
theorem Datum.AgreeOn.decode_eq {α : Type} [Wire α] {build : Fields → Option α}
    (hdecode : ∀ d, (decode d : Option α) = (Fields.ofDatum? names d).bind build)
    (hinner : ∀ name d, inner name d d) (hbuild : ∀ f f', f.Agree inner f' → build f = build f')
    (h : d.AgreeOn names inner d') : (decode d : Option α) = decode d' := by
  have hfields := h.fields hinner
  rw [hdecode, hdecode]
  generalize Fields.ofDatum? names d = o, Fields.ofDatum? names d' = o' at hfields ⊢
  cases hfields with
  | none => rfl
  | some hagree => exact hbuild _ _ hagree

/-- A record whose known members are the same is read alike. -/
theorem Datum.AgreeOn.decode_eq_of_same {α : Type} [Wire α] {build : Fields → Option α}
    (hdecode : ∀ d, (decode d : Option α) = (Fields.ofDatum? names d).bind build)
    (h : d.AgreeOn names (fun _ => Eq) d') : (decode d : Option α) = decode d' := by
  refine h.decode_eq hdecode (fun _ _ => rfl) fun f f' hagree => ?_
  have hmembers : f.members = f'.members :=
    List.forall₂_eq_eq_eq ▸ hagree.members.imp fun m m' hm => Prod.ext hm.1 hm.2
  obtain ⟨members, byName⟩ := f
  obtain ⟨members', byName'⟩ := f'
  obtain rfl : members = members' := hmembers
  obtain rfl : byName = byName' := hagree.byName
  rfl

/-- A list is read alike from lists whose items are read alike. -/
theorem Datum.AgreeOnItems.decode_eq {α : Type} [Wire α] {inner : Datum → Datum → Prop}
    (hinner : ∀ x x', inner x x' → (decode x : Option α) = decode x')
    (h : d.AgreeOnItems inner d') : (decode d : Option (List α)) = decode d' := by
  have hall : ∀ {xs ys : List Datum}, List.Forall₂ inner xs ys →
      (decodeAll xs : Option (List α)) = decodeAll ys := by
    intro xs ys h
    induction h with
    | nil => rfl
    | cons hx _ ih => rw [decodeAll, decodeAll, hinner _ _ hx, ih]
  cases h with
  | same => rfl
  | list h => exact hall h

end

end BackboneLab
