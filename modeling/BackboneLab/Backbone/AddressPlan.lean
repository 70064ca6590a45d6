import BackboneLab.Backbone.Topology
import BackboneLab.Text.Hex

/-!
# Address plans

Every node of a backbone has an index, counted from one in the order of the names, and an address
index, from which the addresses towards its peers are derived. The two are equal unless a rule
reserves the index. Address indices are octets other than zero, and no two nodes share one.
-/

namespace BackboneLab

/-- What takes the place of a reserved address index. -/
inductive Substitute
  /-- The first index behind the last node. -/
  | afterLast
  /-- A given index. -/
  | fixed (index : UInt64)
deriving DecidableEq, Inhabited

/-- The address index that a substitute stands for among so many nodes. -/
def Substitute.resolve (nodes : Nat) : Substitute → Nat
  | .afterLast => nodes + 1
  | .fixed index => index.toNat

instance : Wire Substitute where
  encode
    | .afterLast => encode "after_last"
    | .fixed index => .object [("fixed", encode index)]
  decode d := do
    match ← choice? d with
    | ("after_last", content) => if isNoContent content then some .afterLast else none
    | ("fixed", some index) => return .fixed (← decode index)
    | _ => none

/-- The rule that the node with the given index does not use this index as its address index. -/
structure ReservedIndex where
  index : UInt64
  substitute : Substitute
deriving DecidableEq, Inhabited

instance : Wire ReservedIndex where
  encode r := .object [("index", encode r.index), ("substitute", encode r.substitute)]
  decode d := do
    let f ← Fields.ofDatum? ["index", "substitute"] d
    return ⟨← f.required "index", ← f.required "substitute"⟩

/-- The rules used unless others are given. Index 2 would be the network `10.0.2.0/24`, which the
machine of the laboratory uses itself. -/
def defaultReserved : List ReservedIndex := [⟨2, .afterLast⟩]

/-- What is added to the index of a node for the number of its switch. -/
def datapathBase : Nat := 0xa0

/-- The number of the switch of the node with the given index. -/
def datapathId (index : Nat) : Nat := datapathBase + index

/-- The number of a switch, as 16 hexadecimal digits. -/
def datapathText (id : Nat) : String := String.ofList (Text.hexText .lower 16 id)

/-- A port of a switch, in the notation of the controller. -/
def connectPoint (id port : Nat) : String := "of:" ++ datapathText id ++ "/" ++ decimal port

/-- The index of a node, its name, and the octets of its addresses. -/
structure NodeAddresses where
  index : Nat
  name : String
  /-- The index as an octet, which is used behind the node. -/
  hostOctet : UInt8
  /-- The address index, which is used towards the peers. -/
  peerOctet : UInt8
deriving DecidableEq, Inhabited

namespace NodeAddresses

/-- The address index. -/
def addr (n : NodeAddresses) : Nat := n.peerOctet.toNat

/-- The name of the router. -/
def hostname (n : NodeAddresses) : String := "r" ++ decimal n.index

/-- The number of the router's autonomous system. -/
def asNumber (n : NodeAddresses) (base : Nat) : Nat := base + n.index

/-- The router's address towards the speaker, which is also its identifier. -/
def routerId (n : NodeAddresses) : Ipv4 := ⟨10, 0, n.peerOctet, 1⟩

/-- The router's interface towards the speaker. -/
def routerNet (n : NodeAddresses) : Subnet := .of24 n.routerId

/-- The speaker's address towards the router. -/
def peeringAddr (n : NodeAddresses) : Ipv4 := ⟨10, 0, n.peerOctet, 101⟩

/-- The speaker's interface towards the router. -/
def peeringNet (n : NodeAddresses) : Subnet := .of24 n.peeringAddr

/-- The hardware address of the router's interface towards the speaker. -/
def routerMac (n : NodeAddresses) : String :=
  "0a:00:00:00:" ++ String.ofList (Text.hexText .upper 2 n.addr) ++ ":01"

/-- The hardware address under which the controller displays the router. -/
def displayMac (n : NodeAddresses) : String :=
  "00:00:00:00:" ++ String.ofList (Text.hexText .upper 2 n.index) ++ ":01"

/-- The number of the router's switch. -/
def datapath (n : NodeAddresses) : Nat := datapathId n.index

/-- The port of the switch to which the router is attached. -/
def accessPoint (n : NodeAddresses) : String := connectPoint n.datapath 1

/-- The network that the router announces. -/
def hostPrefix (n : NodeAddresses) : Subnet := .of24 ⟨192, 168, n.hostOctet, 0⟩

/-- The interface of the host behind the router. -/
def hostNet (n : NodeAddresses) : Subnet := .of24 ⟨192, 168, n.hostOctet, 1⟩

/-- The router's address towards its host. -/
def gateway (n : NodeAddresses) : Ipv4 := ⟨192, 168, n.hostOctet, 254⟩

end NodeAddresses

/-- The addresses of the nodes of a backbone. -/
structure AddressPlan where
  /-- The nodes in the order of their indices. -/
  nodes : List NodeAddresses
deriving DecidableEq, Inhabited

namespace AddressPlan

/-- The address index of the node with the given index among so many nodes: that of the first rule
for the index, or the index itself. -/
def addressIndex (reserved : List ReservedIndex) (nodes index : Nat) : Nat :=
  match reserved.find? fun r => r.index.toNat = index with
  | some r => r.substitute.resolve nodes
  | none => index

/-- The nodes from the given index on, behind the nodes that have their addresses already. -/
def assign (reserved : List ReservedIndex) (total : Nat) :
    List NodeAddresses → Nat → List String → Except Fault (List NodeAddresses)
  | before, _, [] => .ok before
  | before, index, name :: names =>
    let a := addressIndex reserved total index
    if 255 < index then .error (.addressOverflow index index)
    else if a = 0 ∨ 255 < a then .error (.addressOverflow index a)
    else
      match before.find? fun n => n.addr = a with
      | some other => .error (.addressCollision other.index index a)
      | none =>
        assign reserved total (before ++ [⟨index, name, UInt8.ofNat index, UInt8.ofNat a⟩]) (index + 1)
          names

/-- The plan for nodes with the given names, in the order of their indices. -/
def ofNames (names : List String) (reserved : List ReservedIndex) : Except Fault AddressPlan :=
  if names = [] then .error .emptyTopology
  else (assign reserved names.length [] 1 names).map AddressPlan.mk

/-- The plan for the nodes of a backbone. -/
def ofTopology (t : Topology) (reserved : List ReservedIndex) : Except Fault AddressPlan :=
  ofNames t.names reserved

/-- The node with the given index. -/
def node? (p : AddressPlan) (index : Nat) : Option NodeAddresses :=
  if index = 0 then none else p.nodes[index - 1]?

/-- The address index of the node with the given index. -/
def addr? (p : AddressPlan) (index : Nat) : Option Nat := (p.node? index).map NodeAddresses.addr

end AddressPlan

end BackboneLab
