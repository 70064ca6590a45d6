import BackboneLab.Decimal.Natural
import BackboneLab.Text.Split

/-!
# IPv4 addresses

An address is four octets. Addresses are ordered by their octets, the first one first, so
`192.168.2.1` comes before `192.168.10.1`. The main statement is `Ipv4.read?_eq_some_iff`: an address
is read from exactly the text that it is written as.
-/

namespace BackboneLab

/-- An IPv4 address. -/
structure Ipv4 where
  first : UInt8
  second : UInt8
  third : UInt8
  fourth : UInt8
deriving DecidableEq, Inhabited

namespace Ipv4

/-- The address as a number, the first octet being the most significant one. -/
def toNat (a : Ipv4) : Nat :=
  ((a.first.toNat * 256 + a.second.toNat) * 256 + a.third.toNat) * 256 + a.fourth.toNat

theorem toNat_injective {a b : Ipv4} (h : a.toNat = b.toNat) : a = b := by
  obtain ⟨a1, a2, a3, a4⟩ := a
  obtain ⟨b1, b2, b3, b4⟩ := b
  simp only [toNat] at h
  have := a1.toNat_lt; have := a2.toNat_lt; have := a3.toNat_lt; have := a4.toNat_lt
  have := b1.toNat_lt; have := b2.toNat_lt; have := b3.toNat_lt; have := b4.toNat_lt
  have h1 : a1 = b1 := UInt8.toNat_inj.1 (by omega)
  have h2 : a2 = b2 := UInt8.toNat_inj.1 (by omega)
  have h3 : a3 = b3 := UInt8.toNat_inj.1 (by omega)
  have h4 : a4 = b4 := UInt8.toNat_inj.1 (by omega)
  rw [h1, h2, h3, h4]

instance : Ord Ipv4 := ⟨fun a b => compare a.toNat b.toNat⟩

theorem compare_def (a b : Ipv4) : compare a b = compare a.toNat b.toNat := rfl

instance : Std.TransOrd Ipv4 := inferInstanceAs (Std.TransCmp (compareOn toNat))

instance : Std.LawfulEqOrd Ipv4 where
  eq_of_compare := fun h => toNat_injective (Nat.compare_eq_eq.1 h)

/-- The octets in decimal notation, separated by points. -/
def chars (a : Ipv4) : List Char :=
  Text.join ['.'] [natText a.first.toNat, natText a.second.toNat, natText a.third.toNat,
    natText a.fourth.toNat]

/-- The octets in decimal notation, separated by points. -/
def text (a : Ipv4) : String := String.ofList a.chars

/-- An octet in decimal notation, without a leading zero. -/
def readOctet? (cs : List Char) : Option UInt8 :=
  match readNat? cs with
  | some n => if n < 256 then some (UInt8.ofNat n) else none
  | none => none

/-- The address that is written as the given text. -/
def read? (cs : List Char) : Option Ipv4 :=
  match Text.splitOn '.' cs with
  | [p, q, r, s] => do return ⟨← readOctet? p, ← readOctet? q, ← readOctet? r, ← readOctet? s⟩
  | _ => none

theorem readOctet?_eq_some_iff {cs : List Char} {o : UInt8} :
    readOctet? cs = some o ↔ cs = natText o.toNat := by
  rw [← readNat?_eq_some_iff, readOctet?]
  have ho := o.toNat_lt
  constructor
  · split
    next n hn =>
      split
      next hlt =>
        rintro h
        cases h
        rw [UInt8.toNat_ofNat_of_lt' hlt]
        exact hn
      · exact fun h => nomatch h
    · exact fun h => nomatch h
  · intro h
    rw [h]
    simp only
    rw [if_pos ho, UInt8.ofNat_toNat]

theorem readOctet?_natText (o : UInt8) : readOctet? (natText o.toNat) = some o :=
  readOctet?_eq_some_iff.2 rfl

theorem not_mem_natText {c : Char} (hc : c.isDigit = false) (n : Nat) : c ∉ natText n := fun h => by
  rw [isDigit_of_mem_natText h] at hc
  cases hc

theorem read?_chars (a : Ipv4) : read? a.chars = some a := by
  have h : Text.splitOn '.' a.chars = [natText a.first.toNat, natText a.second.toNat,
      natText a.third.toNat, natText a.fourth.toNat] :=
    Text.splitOn_join (List.cons_ne_nil _ _) fun p hp => by
      simp only [List.mem_cons, List.not_mem_nil, or_false] at hp
      rcases hp with rfl | rfl | rfl | rfl <;> exact not_mem_natText rfl _
  simp [read?, h, readOctet?_natText]

theorem read?_text (a : Ipv4) : read? a.text.toList = some a := by
  rw [text, String.toList_ofList, read?_chars]

/-- An address is read from exactly the text that it is written as. -/
theorem read?_eq_some_iff {cs : List Char} {a : Ipv4} : read? cs = some a ↔ cs = a.chars := by
  constructor
  · intro h
    unfold read? at h
    split at h
    next p q r s hs =>
      simp only [bind, Option.bind_eq_some_iff, pure] at h
      obtain ⟨o1, h1, o2, h2, o3, h3, o4, h4, h⟩ := h
      cases h
      rw [← Text.join_splitOn '.' cs, hs, readOctet?_eq_some_iff.1 h1, readOctet?_eq_some_iff.1 h2,
        readOctet?_eq_some_iff.1 h3, readOctet?_eq_some_iff.1 h4]
      rfl
    · cases h
  · rintro rfl
    exact read?_chars a

end Ipv4

end BackboneLab
