import BackboneLab.Document.Wire
import BackboneLab.Fault
import BackboneLab.Ordered.Set

/-!
# Traffic matrices

A matrix holds the bandwidths, in Mbit/s, that a source host sends to a destination host, one for
every aggregation interval. The demands are listed by source, then by destination. The last bandwidths
set for two hosts are those that count.
-/

namespace BackboneLab

open Std

/-- A bandwidth in Mbit/s. -/
abbrev Bandwidth := Float

/-- A source host and a destination host. Pairs are ordered by their source, then by their
destination. -/
structure HostPair where
  source : Ipv4
  destination : Ipv4
deriving DecidableEq, Inhabited

namespace HostPair

instance : Ord HostPair :=
  ⟨compareLex (compareOn HostPair.source) (compareOn HostPair.destination)⟩

instance : TransOrd HostPair :=
  inferInstanceAs (TransCmp (compareLex (compareOn source) (compareOn destination)))

instance : LawfulEqOrd HostPair where
  eq_of_compare := fun {a b} h => by
    obtain ⟨a1, a2⟩ := a
    obtain ⟨b1, b2⟩ := b
    obtain ⟨h1, h2⟩ := Ordering.then_eq_eq.1 h
    have h1 : compare a1 b1 = .eq := h1
    have h2 : compare a2 b2 = .eq := h2
    rw [LawfulEqCmp.eq_of_compare h1, LawfulEqCmp.eq_of_compare h2]

end HostPair

/-- The bandwidths of two hosts, one for every aggregation interval. -/
structure Demand where
  source : Ipv4
  destination : Ipv4
  bandwidths : List Bandwidth

namespace Demand

/-- The hosts of a demand. -/
def hosts (d : Demand) : HostPair := ⟨d.source, d.destination⟩

instance : Wire Demand where
  encode d := .object
    [("src", encode d.source), ("dst", encode d.destination), ("bandwidths", encode d.bandwidths)]
  decode t := do
    let f ← Fields.ofDatum? ["src", "dst", "bandwidths"] t
    return ⟨← f.required "src", ← f.required "dst", ← f.required "bandwidths"⟩

end Demand

/-- The bandwidths of every pair of hosts. -/
structure DemandMatrix where
  series : OrderedMap HostPair (List Bandwidth)

namespace DemandMatrix

/-- The matrix without any demand. -/
def empty : DemandMatrix := ⟨.empty⟩

instance : Inhabited DemandMatrix := ⟨empty⟩

/-- The matrix of a list of demands, of which the last one of two hosts counts. -/
def ofList (ds : List Demand) : DemandMatrix := ⟨.ofList (ds.map fun d => (d.hosts, d.bandwidths))⟩

/-- The demands in the order of their hosts. -/
def toList (m : DemandMatrix) : List Demand :=
  m.series.entries.map fun e => ⟨e.1.source, e.1.destination, e.2⟩

/-- Sets the bandwidths of two hosts. -/
def insert (m : DemandMatrix) (d : Demand) : DemandMatrix := ⟨m.series.insert d.hosts d.bandwidths⟩

/-- The bandwidths of two hosts. -/
def find? (m : DemandMatrix) (p : HostPair) : Option (List Bandwidth) := m.series.find? p

/-- The number of demands. -/
def size (m : DemandMatrix) : Nat := m.series.size

/-- Whether there is no demand. -/
def isEmpty (m : DemandMatrix) : Bool := m.series.isEmpty

/-- All hosts that send or receive. -/
def hosts (m : DemandMatrix) : OrderedSet Ipv4 :=
  .ofList (m.series.keys.flatMap fun p => [p.source, p.destination])

/-- The matrix that plays every demand twice in a row. -/
def doubled (m : DemandMatrix) : DemandMatrix := ⟨m.series.mapValues fun bs => bs ++ bs⟩

/-- Whether a bandwidth can be generated: a finite number that is not negative. -/
def isBandwidth (b : Bandwidth) : Bool := b.isFinite && !(b < 0)

/-- The first reason why a demand cannot be played. -/
def flaw? (d : Demand) : Option DemandFlaw :=
  if d.source = d.destination then some .sameHost
  else if d.bandwidths = [] then some .noBandwidth
  else if d.bandwidths.all isBandwidth then none
  else some .invalidBandwidth

/-- Reports the first demand that has a flaw. -/
def check (flaw? : Demand → Option DemandFlaw) : List Demand → Except Fault Unit
  | [] => .ok ()
  | d :: ds =>
    match flaw? d with
    | some flaw => .error (.invalidDemand d.source d.destination flaw)
    | none => check flaw? ds

/-- Reports the first demand that cannot be played. -/
def validate (m : DemandMatrix) : Except Fault Unit := check flaw? m.toList

/-- A matrix is exchanged as the list of its demands. -/
instance : Wire DemandMatrix where
  encode m := encode m.toList
  decode d := (decode d).map ofList

end DemandMatrix

end BackboneLab
