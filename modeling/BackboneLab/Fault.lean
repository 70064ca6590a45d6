import BackboneLab.Ip.Address
import BackboneLab.Path

/-!
# Faults

The reasons why a backbone, its configuration, a traffic matrix or the settings cannot be processed.
Faults that this program words itself have a `Fault.message`; of the others only the kind is told.
-/

namespace BackboneLab

/-- Why a demand cannot be scheduled, in the order in which the reasons are tested. -/
inductive DemandFlaw
  | sameHost
  | noBandwidth
  | invalidBandwidth
  /-- The steps of the demand take longer than a span of time can be. -/
  | tooLong
deriving DecidableEq, Inhabited

/-- The reason in words. -/
def DemandFlaw.message : DemandFlaw → String
  | .sameHost => "source and destination are the same host"
  | .noBandwidth => "empty time series"
  | .invalidBandwidth => "bandwidth must be a finite, non-negative number"
  | .tooLong => "total duration of the demand overflows"

/-- Why an input cannot be processed. -/
inductive Fault
  /-- There is no node. -/
  | emptyTopology
  /-- A link names a node that is not one of the topology. -/
  | unknownNode (name : String)
  /-- The address index of a node is not an octet other than zero. -/
  | addressOverflow (node index : Nat)
  /-- Two nodes have the same address index. -/
  | addressCollision (first second index : Nat)
  /-- The controller's configuration has no speaker. -/
  | missingPeers
  /-- A file exists, but does not hold what it should. -/
  | malformedFile (path : Path)
  /-- A demand cannot be scheduled. -/
  | invalidDemand (source destination : Ipv4) (flaw : DemandFlaw)
  /-- The aggregation interval is zero. -/
  | invalidInterval
  /-- A file or a directory cannot be used. -/
  | inaccessible
  /-- A JSON document cannot be read. -/
  | invalidDocument
  /-- The settings cannot be read. -/
  | invalidSettings
deriving DecidableEq, Inhabited

/-- The fault in words, if this program words it. -/
def Fault.message : Fault → Option String
  | .emptyTopology => some "The topology must contain at least one node"
  | .unknownNode name => some ("Edge references the unknown node " ++ name)
  | .addressOverflow node index =>
    some ("Node " ++ decimal node ++ " is mapped to address index " ++ decimal index ++
      ", which does not fit into an IPv4 octet")
  | .addressCollision first second index =>
    some ("Nodes " ++ decimal first ++ " and " ++ decimal second ++
      " are both mapped to address index " ++ decimal index)
  | .missingPeers => some "The network configuration does not contain any BGP speaker"
  | .invalidDemand source destination flaw =>
    some ("Invalid demand " ++ source.text ++ " -> " ++ destination.text ++ ": " ++ flaw.message)
  | .invalidInterval => some "The aggregation interval must be larger than zero"
  | .malformedFile _ | .inaccessible | .invalidDocument | .invalidSettings => none

end BackboneLab
