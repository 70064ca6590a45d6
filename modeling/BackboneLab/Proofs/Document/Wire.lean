import BackboneLab.Document.Wire
import BackboneLab.Proofs.Document.Json
import BackboneLab.Proofs.Ordered.Map
import Mathlib.Data.List.Forall2

/-!
# Values are read back from their documents

A value is `Kept` if it is read from what JSON keeps of its tree. Then, and only then, it is read back
from both of its documents (`readBack_iff_kept`). That a record is kept follows from its members
(`Kept.of_members`). A double is kept if the reader of numbers gives it back from the digits that are
written for it (`ExactInJson`), which it does not do for every double.
-/

namespace BackboneLab

/-- A value that is read from what JSON keeps of its tree. -/
def Kept {α : Type} [Wire α] (x : α) : Prop := decode (encode x).inJson = some x

section
variable {α : Type} [Wire α] {x : α}

theorem ofJson?_toJson_eq (x : α) : (ofJson? (toJson x) : Option α) = decode (encode x).inJson := by
  rw [toJson, ofJson?, String.toList_ofList, Json.read?_compact]
  rfl

theorem ofJson?_toPrettyJson_eq (x : α) :
    (ofJson? (toPrettyJson x) : Option α) = decode (encode x).inJson := by
  rw [toPrettyJson, ofJson?, String.toList_ofList, Json.read?_pretty]
  rfl

theorem Kept.ofJson?_toPrettyJson (h : Kept x) : ofJson? (toPrettyJson x) = some x :=
  (ofJson?_toPrettyJson_eq x).trans h

/-- A value that is read back from its two documents. -/
structure ReadBack (x : α) : Prop where
  compact : ofJson? (toJson x) = some x
  pretty : ofJson? (toPrettyJson x) = some x

theorem readBack_iff_kept : ReadBack x ↔ Kept x :=
  ⟨fun h => (ofJson?_toJson_eq x).symm.trans h.compact,
    fun h => ⟨(ofJson?_toJson_eq x).trans h, h.ofJson?_toPrettyJson⟩⟩

end

/-! ## Basic types -/

theorem kept_string (s : String) : Kept s := rfl

theorem kept_bool (b : Bool) : Kept b := rfl

theorem kept_path (p : Path) : Kept p := rfl

theorem decodeBelow_ofNat {limit n : Nat} (h : n < limit) :
    decodeBelow limit (Datum.ofNat n).inJson = some n := by
  simp [decodeBelow, Datum.ofNat, Datum.inJson, Numeral.ofNat, Numeral.toInt?, h]

/-- A number of a type with a largest number is kept. -/
theorem kept_of_decodeBelow {α : Type} [Wire α] {limit : Nat} {toNat : α → Nat} {ofNat : Nat → α}
    {n : α} (hencode : encode n = .ofNat (toNat n))
    (hdecode : ∀ d, decode d = (decodeBelow limit d).map ofNat) (hlt : toNat n < limit)
    (hnat : ofNat (toNat n) = n) : Kept n := by
  rw [Kept, hencode, hdecode, decodeBelow_ofNat hlt, Option.map_some, hnat]

theorem kept_uint16 (n : UInt16) : Kept n :=
  kept_of_decodeBelow rfl (fun _ => rfl) n.toNat_lt_size UInt16.ofNat_toNat

theorem kept_uint32 (n : UInt32) : Kept n :=
  kept_of_decodeBelow rfl (fun _ => rfl) n.toNat_lt_size UInt32.ofNat_toNat

theorem kept_uint64 (n : UInt64) : Kept n :=
  kept_of_decodeBelow rfl (fun _ => rfl) n.toNat_lt_size UInt64.ofNat_toNat

/-- A finite number that is read from the digits that JSON has for it. -/
def ExactInJson (x : Float) : Prop :=
  x.isFinite = true ∧ (FloatLayout.json.numeral x).toFloat? = some x

instance (x : Float) : Decidable (ExactInJson x) := instDecidableAnd

theorem kept_float_iff {x : Float} : Kept x ↔ ExactInJson x := by
  rw [Kept, ExactInJson]
  by_cases hx : x.isFinite = true
  · have hencode : encode x = .number (FloatLayout.json.numeral x) := if_pos hx
    rw [hencode, and_iff_right hx]
    rfl
  · have hencode : encode x = .nonFinite := if_neg hx
    rw [hencode]
    exact iff_of_false nofun fun h => hx h.1

theorem Numeral.toInt?_ofInt (i : Int) : (Numeral.ofInt i).toInt? = some i := by
  have hplain : ¬((Numeral.ofInt i).fraction ≠ [] ∨ (Numeral.ofInt i).exponent ≠ none) := by
    rintro (h | h) <;> exact h rfl
  rw [toInt?, if_neg hplain]
  by_cases hi : i < 0
  · have hwhole : i.natAbs ≠ 0 := by omega
    simp only [ofInt, hi, decide_true, if_true, hwhole, if_false, Option.some.injEq]
    omega
  · simp only [ofInt, hi, decide_false, Bool.false_eq_true, if_false, Option.some.injEq]
    omega

theorem kept_int32 (n : Int32) : Kept n := by
  have hnumber : (encode n).inJson = .number (.ofInt n.toInt) := rfl
  rw [Kept, hnumber]
  simp only [decode, Numeral.toInt?_ofInt]
  rw [if_pos ⟨n.minValue_le_toInt, n.toInt_le⟩, Int32.ofInt_toInt]

theorem kept_ipv4 (a : Ipv4) : Kept a := by
  have hdecode : (decode (encode a).inJson : Option Ipv4) =
    (decode (encode a.text).inJson).bind fun t : String => Ipv4.read? t.toList := rfl
  rw [Kept, hdecode, kept_string a.text, Option.bind_some, Ipv4.text, String.toList_ofList,
    Ipv4.read?_chars]

theorem kept_subnet (s : Subnet) : Kept s := by
  have hdecode : (decode (encode s).inJson : Option Subnet) =
    (decode (encode s.text).inJson).bind fun t : String => Subnet.read? t.toList := rfl
  rw [Kept, hdecode, kept_string s.text, Option.bind_some, Subnet.text, String.toList_ofList,
    Subnet.read?_eq_some_iff]

/-! ## Lists, options and maps -/

section
variable {α : Type} [Wire α]

/-- A list is read item by item. -/
theorem decodeAll_eq_some {ds : List Datum} {xs : List α} :
    decodeAll ds = some xs ↔ List.Forall₂ (fun d x => decode d = some x) ds xs := by
  induction ds generalizing xs with
  | nil => simp [decodeAll, eq_comm]
  | cons d ds ih =>
    simp only [decodeAll, bind, pure, Option.bind_eq_some_iff, Option.some.injEq, ih,
      List.forall₂_cons_left_iff]
    constructor
    · rintro ⟨y, hy, ys, hys, rfl⟩
      exact ⟨y, ys, hy, hys, rfl⟩
    · rintro ⟨y, ys, hy, hys, rfl⟩
      exact ⟨y, hy, ys, hys, rfl⟩

theorem decode_inJson_list {xs ys : List α} :
    decode (encode xs).inJson = some ys ↔
      List.Forall₂ (fun x y => decode (encode x).inJson = some y) xs ys := by
  have hdecode : (decode (encode xs).inJson : Option (List α)) =
    decodeAll (Datum.inJsonItems (xs.map encode)) := rfl
  rw [hdecode, Datum.inJsonItems_eq_map, decodeAll_eq_some, List.forall₂_map_left_iff,
    List.forall₂_map_left_iff]

theorem kept_list_iff {xs : List α} : Kept xs ↔ ∀ x ∈ xs, Kept x :=
  decode_inJson_list.trans List.forall₂_same

theorem kept_list {xs : List α} (h : ∀ x ∈ xs, Kept x) : Kept xs := kept_list_iff.2 h

/-- A value that may be missing is kept, unless its tree is the one of a missing value. -/
theorem kept_some {x : α} (h : Kept x) (hnull : (encode x).inJson ≠ .null) : Kept (some x) := by
  have hdecode : ∀ d : Datum, d ≠ .null →
      (decode d : Option (Option α)) = (decode d : Option α).map some := by
    intro d hd
    cases d with
    | null => exact absurd rfl hd
    | _ => rfl
  have hencode : encode (some x) = encode x := rfl
  rw [Kept, hencode, hdecode _ hnull, h]
  rfl

/-- A value that may be missing is kept if no value has the tree of a missing one. -/
theorem kept_option (h : ∀ x : α, Kept x) (hnull : ∀ x : α, (encode x).inJson ≠ .null)
    (o : Option α) : Kept o := by
  cases o with
  | none => rfl
  | some x => exact kept_some (h x) (hnull x)

theorem kept_option_string (o : Option String) : Kept o := kept_option kept_string (fun _ => nofun) o

theorem inJson_object (ms : List (String × Datum)) :
    (Datum.object ms).inJson = .object (ms.map fun m => (m.1, m.2.inJson)) := by
  rw [Datum.object, Datum.inJson, Datum.inJsonMembers_eq_map, Datum.object, List.map_map, List.map_map]
  rfl

theorem plainMembers_object (ms : List (String × Datum)) :
    Fields.plainMembers (ms.map fun m => (.plain m.1, m.2)) = some ms := by
  induction ms with
  | nil => rfl
  | cons m ms ih =>
    rw [Fields.plainMembers, List.map_cons, List.mapM_cons]
    rw [Fields.plainMembers] at ih
    rw [ih]
    rfl

theorem mapM_entries {es : List (String × α)} (h : ∀ e ∈ es, Kept e.2) :
    (es.map fun e => (e.1, (encode e.2).inJson)).mapM
      (fun m => do return (m.1, ← decode m.2)) = some es := by
  induction es with
  | nil => rfl
  | cons e es ih =>
    have he : decode (encode e.2).inJson = some e.2 := h e List.mem_cons_self
    rw [List.map_cons, List.mapM_cons, he, ih fun e he => h e (List.mem_cons_of_mem _ he)]
    rfl

theorem kept_map {m : OrderedMap String α} (h : ∀ e ∈ m.entries, Kept e.2) : Kept m := by
  have hencode : encode m = .object (m.entries.map fun e => (e.1, encode e.2)) := rfl
  have hdecode : ∀ ms : List (String × Datum),
      (decode (Datum.object ms) : Option (OrderedMap String α)) = (do
        let es ← (← Fields.plainMembers (ms.map fun m => (.plain m.1, m.2))).mapM fun m => do
          return (m.1, ← decode m.2)
        return .ofList es) := fun _ => rfl
  rw [Kept, hencode, inJson_object, hdecode, plainMembers_object, List.map_map]
  have hentries := mapM_entries h
  simp only [bind, Option.bind_some, Function.comp_def] at hentries ⊢
  rw [hentries, Option.bind_some, OrderedMap.ofList_entries]
  rfl

end

/-! ## Records -/

theorem Fields.ofDatum?_object {names : List String} {ms : List (String × Datum)}
    (hnames : (ms.map (·.1)).Sublist names) (hnodup : names.Nodup) :
    Fields.ofDatum? names (.object ms) = some ⟨ms, true⟩ := by
  have hknown : ms.filter (·.1 ∈ names) = ms :=
    List.filter_eq_self.2 fun m hm => decide_eq_true (hnames.subset (List.mem_map_of_mem hm))
  simp only [Fields.ofDatum?, Datum.object, plainMembers_object, bind, Option.bind_some, hknown,
    if_pos (hnodup.sublist hnames)]

/-- A record is read from what JSON keeps of its members. -/
theorem decode_inJson_object {α : Type} [Wire α] {x : α} {names : List String}
    {ms : List (String × Datum)} {build : Fields → Option α} (hencode : encode x = .object ms)
    (hdecode : ∀ d, (decode d : Option α) = (Fields.ofDatum? names d).bind build)
    (hnames : (ms.map (·.1)).Sublist names) (hnodup : names.Nodup) :
    (decode (encode x).inJson : Option α) = build ⟨ms.map fun m => (m.1, m.2.inJson), true⟩ := by
  have hkeys : (ms.map fun m => (m.1, m.2.inJson)).map (·.1) = ms.map (·.1) := by
    rw [List.map_map]
    rfl
  rw [hencode, hdecode, inJson_object, Fields.ofDatum?_object (hkeys ▸ hnames) hnodup,
    Option.bind_some]

/-- A record is kept if it is put together again from what JSON keeps of its members. -/
theorem Kept.of_members {α : Type} [Wire α] {x : α} {names : List String}
    {ms : List (String × Datum)} {build : Fields → Option α} (hencode : encode x = .object ms)
    (hdecode : ∀ d, (decode d : Option α) = (Fields.ofDatum? names d).bind build)
    (hnames : (ms.map (·.1)).Sublist names) (hnodup : names.Nodup)
    (hbuild : build ⟨ms.map fun m => (m.1, m.2.inJson), true⟩ = some x) : Kept x :=
  (decode_inJson_object hencode hdecode hnames hnodup).trans hbuild

/-- A member that is kept is found under its name. -/
theorem Fields.required_eq {α : Type} [Wire α] {f : Fields} {name : String} {x : α}
    (hfind : f.find? name = some (encode x).inJson) (h : Kept x) : f.required name = some x := by
  rw [Fields.required, hfind]
  exact h

theorem Fields.withDefault_eq {α : Type} [Wire α] {f : Fields} {name : String} {x default : α}
    (hfind : f.find? name = some (encode x).inJson) (h : Kept x) :
    f.withDefault name default = some x := by
  rw [Fields.withDefault, hfind]
  exact h

theorem Fields.optional_eq {α : Type} [Wire (Option α)] {f : Fields} {name : String} {o : Option α}
    (hfind : f.find? name = some (encode o).inJson) (h : Kept o) : f.optional name = some o := by
  rw [Fields.optional, hfind]
  exact h

end BackboneLab
