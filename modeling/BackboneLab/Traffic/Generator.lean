import BackboneLab.HostCommand
import BackboneLab.Traffic.Schedule

/-!
# Traffic generators

The tools that generate the traffic of a step, and the commands that run them on the two hosts. A
receiver listens on a port that tells the source by the third octet of its address.
-/

namespace BackboneLab

/-- A tool that generates traffic. -/
inductive Generator
  /-- Sends TCP. A receiver serves one sender at a time. -/
  | iperf3
  /-- Sends UDP. -/
  | iperf2
  /-- Sends UDP packets of one size at a given rate. One receiver serves all senders. -/
  | ditg
deriving DecidableEq, Inhabited

namespace Generator

/-- The name of a tool. -/
def name : Generator → String
  | .iperf3 => "iperf3"
  | .iperf2 => "iperf2"
  | .ditg => "ditg"

/-- The tool with the given name, in any case and with the usual other names. -/
def ofName? (text : String) : Option Generator :=
  match String.ofList (text.toList.map Char.toLower) with
  | "iperf3" => some .iperf3
  | "iperf2" | "iperf" => some .iperf2
  | "ditg" | "d-itg" => some .ditg
  | _ => none

/-- What is said of a text that names no tool. -/
def unknownMessage (text : String) : String := "Unknown traffic tool: " ++ text

instance : Wire Generator where
  encode g := encode g.name
  decode d := do
    let (name, content) ← choice? d
    if isNoContent content then
      match name with
      | "iperf3" => some .iperf3
      | "iperf2" => some .iperf2
      | "ditg" => some .ditg
      | _ => none
    else none

/-- The port of the receiver for a source whose address has a zero as its third octet. -/
def basePort : Nat := 5000

/-- The size of a packet in bytes, where packets have one size. -/
def packetSize : Nat := 512

/-- The port on which a host receives the traffic of the given source. -/
def portFor (source : Ipv4) : Nat := basePort + source.third.toNat

/-- How many packets a second reach the bandwidth. -/
def packetRate (b : Bandwidth) : Nat :=
  (b * 1e6 / 8.0 / Float.ofNat packetSize).toUInt64.toNat + 1

/-- The bandwidth as it is given on a command line. -/
def bandwidthArg (b : Bandwidth) : String := String.ofList (floatText b ++ ['M'])

/-- The arguments of a sender that limits its bandwidth. -/
def limitedArgs (source : Ipv4) (s : TrafficStep) : List String :=
  ["-c", s.destination.text, "-b", bandwidthArg s.bandwidth, "-p", decimal (portFor source), "-t",
    decimal s.duration.seconds, "-V"]

/-- The command that generates the traffic of a step on its source. -/
def clientCommand (source : Ipv4) (s : TrafficStep) : Generator → HostCommand
  | .iperf3 => ⟨"iperf3", limitedArgs source s⟩
  | .iperf2 => ⟨"iperf", "-u" :: limitedArgs source s⟩
  | .ditg => ⟨"ITGSend", ["-T", "UDP", "-a", s.destination.text, "-C",
      decimal (packetRate s.bandwidth), "-c", decimal packetSize, "-t", decimal s.duration.seconds]⟩

/-- The commands that receive traffic on a host: one for every other host, or one for all of them. -/
def receiverCommands (destination : Ipv4) (hosts : List Ipv4) (g : Generator) : List HostCommand :=
  let sources := hosts.filter (· ≠ destination)
  match g with
  | .iperf3 => sources.map fun s => ⟨"iperf3", ["-s", "-p", decimal (portFor s)]⟩
  | .iperf2 => sources.map fun s => ⟨"iperf", ["-u", "-s", "-p", decimal (portFor s)]⟩
  | .ditg => [.ofProgram "ITGRecv"]

end Generator

end BackboneLab
