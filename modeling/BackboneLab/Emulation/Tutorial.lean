import BackboneLab.Emulation.Network

/-!
# The tutorial network

A network of five routers and six switches that is wired by hand. The first and the last router share
a switch, and the first router has a second host. Its configuration files are not generated.
-/

namespace BackboneLab.EmulatedNetwork

/-- The rules for the address indices of the tutorial. -/
def tutorialReserved : List ReservedIndex := [⟨2, .fixed 9⟩]

/-- The names of the tutorial's routers. -/
def tutorialNames : List String := (List.range 5).map fun k => "r" ++ decimal (k + 1)

/-- The indices of the switches to which the routers are attached. -/
def tutorialAttachment : List Nat := [1, 2, 5, 6, 1]

/-- The cables between the switches. -/
def tutorialCables : List (Nat × Nat) := [(1, 2), (1, 3), (2, 4), (3, 4), (3, 5), (4, 6), (5, 6)]

/-- The address of the first router towards its second host. -/
def extraGateway : Ipv4 := ⟨192, 168, 10, 254⟩

/-- The second host of the first router. -/
def extraHost : Host := ⟨"h10", .of24 ⟨192, 168, 10, 1⟩, extraGateway⟩

/-- The interfaces of a router, of which the first one has one more. -/
def tutorialInterfaces (n : NodeAddresses) : List Interface :=
  interfacesOf n ++
    if n.index = 1 then [⟨interfaceName n.hostname 2, none, [.of24 extraGateway]⟩] else []

/-- The hosts behind a router. -/
def tutorialHosts (n : NodeAddresses) : List Host :=
  hostOf n :: if n.index = 1 then [extraHost] else []

/-- The links of a router that is attached to the given switch. -/
def tutorialNodeLinks (n : NodeAddresses) (switch : Nat) : List Link :=
  [⟨n.hostname, switchName switch⟩, ⟨n.hostname, hostName n.index⟩] ++
    if n.index = 1 then [⟨n.hostname, extraHost.name⟩] else []

/-- The tutorial network, with configuration files in the given directory. -/
def tutorial (s : Settings) (confDir : Path) : Except Fault EmulatedNetwork := do
  let plan ← AddressPlan.ofNames tutorialNames tutorialReserved
  return {
    switches := (List.range 6).map fun k => switchOf (k + 1)
    routers := plan.nodes.map fun n => routerOf confDir n (tutorialInterfaces n) none
    hosts := plan.nodes.flatMap tutorialHosts
    speaker := speakerOf plan.nodes s confDir
    links := (plan.nodes.zip tutorialAttachment).flatMap (fun p => tutorialNodeLinks p.1 p.2) ++
      speakerLink s :: tutorialCables.map fun c => switchLink c.1 c.2 }

end BackboneLab.EmulatedNetwork
