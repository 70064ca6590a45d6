import BackboneLab.Ip.Address

/-!
# Subnets

An address with the length of its network prefix. The bits of the host are kept, so a subnet also
describes the address of an interface in its network. The main statement is
`Subnet.read?_eq_some_iff`: a subnet is read from exactly the text that it is written as.
-/

namespace BackboneLab

/-- An IPv4 address in a network with a prefix of at most 32 bits. -/
structure Subnet where
  address : Ipv4
  length : Fin 33
deriving DecidableEq, Inhabited

namespace Subnet

/-- An address in a network of 256 addresses. -/
def of24 (a : Ipv4) : Subnet := ⟨a, 24⟩

/-- The address with all bits behind the prefix cleared. -/
def network (s : Subnet) : Ipv4 :=
  let step := twoTo (32 - s.length.val)
  let n := s.address.toNat / step * step
  ⟨UInt8.ofNat (n / twoTo 24), UInt8.ofNat (n / twoTo 16), UInt8.ofNat (n / twoTo 8), UInt8.ofNat n⟩

/-- The address, a slash and the length of the prefix. -/
def chars (s : Subnet) : List Char := s.address.chars ++ '/' :: natText s.length.val

/-- The address, a slash and the length of the prefix. -/
def text (s : Subnet) : String := String.ofList s.chars

/-- The length of a prefix in decimal notation, without a leading zero. -/
def readLength? (cs : List Char) : Option (Fin 33) :=
  match readNat? cs with
  | some n => if h : n < 33 then some ⟨n, h⟩ else none
  | none => none

/-- The subnet that is written as the given text. -/
def read? (cs : List Char) : Option Subnet :=
  match Text.splitOn '/' cs with
  | [a, l] => do return ⟨← Ipv4.read? a, ← readLength? l⟩
  | _ => none

/-- The octets of a number of 32 bits. -/
theorem ofNat_octets (a b c d : UInt8) :
    let n := ((a.toNat * 256 + b.toNat) * 256 + c.toNat) * 256 + d.toNat
    UInt8.ofNat (n / twoTo 24) = a ∧ UInt8.ofNat (n / twoTo 16) = b ∧ UInt8.ofNat (n / twoTo 8) = c ∧
      UInt8.ofNat n = d := by
  have h24 : twoTo 24 = 16777216 := rfl
  have h16 : twoTo 16 = 65536 := rfl
  have h8 : twoTo 8 = 256 := rfl
  have := a.toNat_lt; have := b.toNat_lt; have := c.toNat_lt; have := d.toNat_lt
  rw [h24, h16, h8]
  refine ⟨?_, ?_, ?_, ?_⟩ <;> (apply UInt8.toNat_inj.1; rw [UInt8.toNat_ofNat']; omega)

/-- The network of 256 addresses that an address is in does not depend on the last octet. -/
theorem network_of24 (a b c d : UInt8) : (of24 ⟨a, b, c, d⟩).network = ⟨a, b, c, 0⟩ := by
  have hstep : twoTo (32 - (24 : Fin 33).val) = 256 := rfl
  have hnumber : Ipv4.toNat ⟨a, b, c, d⟩ / 256 * 256 =
      ((a.toNat * 256 + b.toNat) * 256 + c.toNat) * 256 + (0 : UInt8).toNat := by
    have := d.toNat_lt
    simp only [Ipv4.toNat, UInt8.toNat_zero]
    omega
  obtain ⟨h1, h2, h3, h4⟩ := ofNat_octets a b c 0
  simp only [network, of24, hstep, hnumber, h1, h2, h3, h4]

theorem readLength?_eq_some_iff {cs : List Char} {l : Fin 33} :
    readLength? cs = some l ↔ cs = natText l.val := by
  rw [← readNat?_eq_some_iff, readLength?]
  constructor
  · split
    next n hn =>
      split
      next hlt =>
        rintro h
        cases h
        exact hn
      · exact fun h => nomatch h
    · exact fun h => nomatch h
  · intro h
    rw [h]
    simp only
    rw [dif_pos l.isLt]

/-- A subnet is read from exactly the text that it is written as. -/
theorem read?_eq_some_iff {cs : List Char} {s : Subnet} : read? cs = some s ↔ cs = s.chars := by
  constructor
  · intro h
    unfold read? at h
    split at h
    next a l hs =>
      simp only [bind, Option.bind_eq_some_iff, pure] at h
      obtain ⟨x, hx, y, hy, h⟩ := h
      cases h
      rw [← Text.join_splitOn '/' cs, hs, Ipv4.read?_eq_some_iff.1 hx, readLength?_eq_some_iff.1 hy,
        chars, Text.join, Text.join, List.append_assoc, List.singleton_append]
    · cases h
  · rintro rfl
    have ha : '/' ∉ s.address.chars := by
      simp only [Ipv4.chars, Text.join, List.mem_append, List.mem_singleton]
      have := fun n => Ipv4.not_mem_natText (c := '/') rfl n
      simp [this]
    have h : Text.splitOn '/' s.chars = [s.address.chars, natText s.length.val] := by
      rw [chars, Text.splitOn_append ha,
        Text.splitOn_eq_singleton (Ipv4.not_mem_natText (c := '/') rfl _)]
    simp [read?, h, Ipv4.read?_chars, readLength?_eq_some_iff.2 rfl]

end Subnet

end BackboneLab
