import BackboneLab.Emulation.Network
import BackboneLab.Traffic.Generator

/-!
# Receivers

The commands that receive the traffic of a network on its hosts.
-/

namespace BackboneLab

/-- The commands that receive the traffic of a network, host by host, with the names of the hosts. -/
def EmulatedNetwork.receivers (n : EmulatedNetwork) (g : Generator) : List (String × HostCommand) :=
  n.hosts.flatMap fun h => (g.receiverCommands h.address n.hostAddrs).map (h.name, ·)

end BackboneLab
