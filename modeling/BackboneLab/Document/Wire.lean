import BackboneLab.Decimal.Layout
import BackboneLab.Decimal.Reading
import BackboneLab.Document.Datum
import BackboneLab.Document.Json.Reader
import BackboneLab.Document.Json.Writer
import BackboneLab.Ip.Subnet
import BackboneLab.Ordered.Map
import BackboneLab.Path

/-!
# Values and their trees

`Wire` says how the values of a type are written as a tree and read from one. A record is read from a
tree with named members, of which unknown ones are ignored and known ones may stand only once, or from
a list of its fields in order. `Fields` holds the members found, and `required`, `optional` and
`withDefault` read one of them.
-/

namespace BackboneLab

/-- A type whose values are exchanged in documents. -/
class Wire (α : Type) where
  /-- The tree of a value. -/
  encode : α → Datum
  /-- The value of a tree, if it has one of the type. -/
  decode : Datum → Option α

export Wire (encode decode)

/-! ## Records -/

/-- The members of a record that have known names. -/
structure Fields where
  members : List (String × Datum)
  /-- Whether the members were given by name, and not by their order. -/
  byName : Bool

namespace Fields

/-- The members of a record whose names are all texts of whole characters. -/
def plainMembers (ms : List (Literal × Datum)) : Option (List (String × Datum)) :=
  ms.mapM fun m =>
    match m.1 with
    | .plain k => some (k, m.2)
    | .unpaired => none

/-- The known members of a tree that is read as a record with the given field names. -/
def ofDatum? (names : List String) : Datum → Option Fields
  | .record _ ms => do
    let known := (← plainMembers ms).filter (·.1 ∈ names)
    if (known.map (·.1)).Nodup then some ⟨known, true⟩ else none
  | .list xs => if xs.length ≤ names.length then some ⟨names.zip xs, false⟩ else none
  | .moment => some ⟨[], true⟩
  | _ => none

/-- The tree of a member. -/
def find? (f : Fields) (name : String) : Option Datum := f.members.lookup name

variable {α : Type} [Wire α]

/-- A member that must be given. -/
def required (f : Fields) (name : String) : Option α :=
  match f.find? name with
  | some d => decode d
  | none => none

/-- A member that takes a default if it is not given. -/
def withDefault (f : Fields) (name : String) (default : α) : Option α :=
  match f.find? name with
  | some d => decode d
  | none => some default

/-- A member that may be left out of named members, but not out of a list. -/
def optional [Wire (Option α)] (f : Fields) (name : String) : Option (Option α) :=
  match f.find? name with
  | some d => decode d
  | none => if f.byName then some none else none

end Fields

/-! ## Choices -/

/-- A choice among named alternatives, with the tree that belongs to it, if one is given. It is written
as the name alone, or as a record in braces with the name as its only member. -/
def choice? : Datum → Option (String × Option Datum)
  | .text (.plain name) => some (name, none)
  | .record .object [(.plain name, d)] | .record .inlined [(.plain name, d)] => some (name, some d)
  | _ => none

/-- Whether a tree may stand for the content of an alternative that has none. -/
def isNoContent : Option Datum → Bool
  | none | some .null | some (.record .inlined []) => true
  | _ => false

/-! ## Basic types -/

instance : Wire Bool where
  encode := .bool
  decode
    | .bool b => some b
    | _ => none

/-- The natural number below a limit that a tree holds. -/
def decodeBelow (limit : Nat) : Datum → Option Nat
  | .number n =>
    match n.toInt? with
    | some (.ofNat k) => if k < limit then some k else none
    | _ => none
  | _ => none

instance : Wire UInt16 where
  encode n := .ofNat n.toNat
  decode d := (decodeBelow UInt16.size d).map UInt16.ofNat

instance : Wire UInt32 where
  encode n := .ofNat n.toNat
  decode d := (decodeBelow UInt32.size d).map UInt32.ofNat

instance : Wire UInt64 where
  encode n := .ofNat n.toNat
  decode d := (decodeBelow UInt64.size d).map UInt64.ofNat

instance : Wire Int32 where
  encode n := .number (.ofInt n.toInt)
  decode
    | .number n =>
      match n.toInt? with
      | some i =>
        if Int32.minValue.toInt ≤ i ∧ i ≤ Int32.maxValue.toInt then some (Int32.ofInt i) else none
      | none => none
    | _ => none

instance : Wire Float where
  encode x := if x.isFinite then .number (FloatLayout.json.numeral x) else .nonFinite
  decode
    | .number n => n.toFloat?
    | _ => none

instance : Wire String where
  encode := .ofString
  decode
    | .text (.plain s) => some s
    | _ => none

instance : Wire Path where
  encode p := encode p.text
  decode d := (decode d).map Path.mk

instance : Wire Ipv4 where
  encode a := encode a.text
  decode d := do Ipv4.read? (← decode (α := String) d).toList

instance : Wire Subnet where
  encode s := encode s.text
  decode d := do Subnet.read? (← decode (α := String) d).toList

/-- The values of a list of trees. -/
def decodeAll {α : Type} [Wire α] : List Datum → Option (List α)
  | [] => some []
  | d :: ds => do return (← decode d) :: (← decodeAll ds)

instance {α : Type} [Wire α] : Wire (List α) where
  encode xs := .list (xs.map encode)
  decode
    | .list ds => decodeAll ds
    | _ => none

instance {α : Type} [Wire α] : Wire (Option α) where
  encode
    | some x => encode x
    | none => .null
  decode
    | .null => some none
    | d => (decode d).map some

/-- A map with texts as keys. Of a key that is given more than once, the last value counts. -/
instance {α : Type} [Wire α] : Wire (OrderedMap String α) where
  encode m := .object (m.entries.map fun e => (e.1, encode e.2))
  decode
    | .record _ ms => do
      let es ← (← Fields.plainMembers ms).mapM fun m => do return (m.1, ← decode m.2)
      return .ofList es
    | .moment => none
    | _ => none

/-! ## Documents -/

/-- The value of a JSON document. -/
def ofJson? {α : Type} [Wire α] (text : String) : Option α := do decode (← Json.read? text.toList)

/-- The JSON document of a value, without any blank. -/
def toJson {α : Type} [Wire α] (x : α) : String := String.ofList (Json.compact (encode x))

/-- The JSON document of a value, with a line for every item. -/
def toPrettyJson {α : Type} [Wire α] (x : α) : String := String.ofList (Json.pretty (encode x))

end BackboneLab
