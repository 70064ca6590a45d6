import BackboneLab.Proofs.Backbone.AddressPlan
import BackboneLab.Proofs.Text.Hex

/-!
# Hardware addresses

A hardware address is made from an octet, which stands as two hexadecimal digits among five groups that
do not change (`isHardwareAddress_of_octet`). The router's interface has one by the address index, the
display of the router one by the index.
-/

namespace BackboneLab

/-- Two hexadecimal digits. -/
def IsHexOctet (group : List Char) : Prop :=
  group.length = 2 ∧ ∀ c ∈ group, (Text.hexValue? c).isSome

/-- Six groups of two hexadecimal digits, with colons between them. -/
def IsHardwareAddress (text : String) : Prop :=
  (Text.splitOn ':' text.toList).length = 6 ∧ ∀ group ∈ Text.splitOn ':' text.toList, IsHexOctet group

theorem IsHexOctet.colon_not_mem {group : List Char} (h : IsHexOctet group) : ':' ∉ group := by
  intro hmem
  have hdigit := h.2 ':' hmem
  exact absurd hdigit (by decide)

theorem isHexOctet_pair {c d : Char} (hc : (Text.hexValue? c).isSome) (hd : (Text.hexValue? d).isSome) :
    IsHexOctet [c, d] := by
  refine ⟨rfl, fun e he => ?_⟩
  simp only [List.mem_cons, List.not_mem_nil, or_false] at he
  rcases he with rfl | rfl
  · exact hc
  · exact hd

theorem isHexOctet_hexText (l : Text.LetterCase) {k : Nat} (hk : k < 256) :
    IsHexOctet (Text.hexText l 2 k) :=
  ⟨Text.length_hexText (by decide) hk, Text.isSome_hexValue?_of_mem (Text.readHex?_hexText l 2 k)⟩

theorem isHardwareAddress_of_groups {text : String} {groups : List (List Char)}
    (htext : text.toList = Text.join [':'] groups) (hlength : groups.length = 6)
    (h : ∀ group ∈ groups, IsHexOctet group) : IsHardwareAddress text := by
  have hne : groups ≠ [] := List.ne_nil_of_length_eq_add_one hlength
  have hsplit : Text.splitOn ':' text.toList = groups := by
    rw [htext]
    exact Text.splitOn_join hne fun group hgroup => (h group hgroup).colon_not_mem
  rw [IsHardwareAddress, hsplit]
  exact ⟨hlength, h⟩

/-- An octet in its place among the other groups makes up a hardware address. -/
theorem isHardwareAddress_of_octet {text : String} {first : List Char} {k : Nat}
    (htext : text.toList = Text.join [':']
      [first, ['0', '0'], ['0', '0'], ['0', '0'], Text.hexText .upper 2 k, ['0', '1']])
    (hfirst : IsHexOctet first) (hk : k < 256) : IsHardwareAddress text := by
  refine isHardwareAddress_of_groups htext rfl fun group hgroup => ?_
  simp only [List.mem_cons, List.not_mem_nil, or_false] at hgroup
  rcases hgroup with rfl | rfl | rfl | rfl | rfl | rfl
  · exact hfirst
  · exact isHexOctet_pair rfl rfl
  · exact isHexOctet_pair rfl rfl
  · exact isHexOctet_pair rfl rfl
  · exact isHexOctet_hexText .upper hk
  · exact isHexOctet_pair rfl rfl

namespace NodeAddresses

theorem isHardwareAddress_routerMac (n : NodeAddresses) : IsHardwareAddress n.routerMac := by
  have htext : n.routerMac.toList = Text.join [':']
      [['0', 'a'], ['0', '0'], ['0', '0'], ['0', '0'], Text.hexText .upper 2 n.addr, ['0', '1']] := by
    simp [routerMac, Text.join]
  exact isHardwareAddress_of_octet htext (isHexOctet_pair rfl rfl) n.peerOctet.toNat_lt

/-- The display has two digits for an index, which is enough as long as the index is an octet. -/
theorem isHardwareAddress_displayMac {n : NodeAddresses} (h : n.index < 256) :
    IsHardwareAddress n.displayMac := by
  have htext : n.displayMac.toList = Text.join [':']
      [['0', '0'], ['0', '0'], ['0', '0'], ['0', '0'], Text.hexText .upper 2 n.index, ['0', '1']] := by
    simp [displayMac, Text.join]
  exact isHardwareAddress_of_octet htext (isHexOctet_pair rfl rfl) h

/-- Routers with the same hardware address have the same address index. -/
theorem routerMac_inj {m n : NodeAddresses} (h : m.routerMac = n.routerMac) : m.addr = n.addr := by
  have hgroup : "0a:00:00:00:" ++ String.ofList (Text.hexText .upper 2 m.addr) =
      "0a:00:00:00:" ++ String.ofList (Text.hexText .upper 2 n.addr) := (String.append_left_inj _).1 h
  exact Text.hexText_injective (String.ofList_injective ((String.append_right_inj _).1 hgroup))

end NodeAddresses

/-- No two routers of a plan share their hardware address. -/
theorem AddressPlan.Lists.routerMac_nodup {reserved : List ReservedIndex} {names : List String}
    {nodes : List NodeAddresses} (h : Lists reserved names nodes) :
    (nodes.map NodeAddresses.routerMac).Nodup := by
  refine List.pairwise_map.2 ((List.pairwise_map.1 h.addr_nodup).imp fun hne heq => ?_)
  exact hne (NodeAddresses.routerMac_inj heq)

end BackboneLab
