import BackboneLab.Time.Span
import BackboneLab.Traffic.Matrix

/-!
# Traffic schedules

A schedule plays a traffic matrix: every bandwidth of a demand becomes a step that lasts one
aggregation interval, and the last step of every demand lasts three, so that the last measurement is
complete. `Schedule.build` schedules a matrix or says which demand it cannot schedule.
-/

namespace BackboneLab

/-- Traffic of one bandwidth to one host. -/
structure TrafficStep where
  destination : Ipv4
  bandwidth : Bandwidth
  duration : Span

/-- The steps of a demand, to be played in this order. -/
structure DemandSchedule where
  source : Ipv4
  destination : Ipv4
  steps : List TrafficStep

/-- The time that all steps of a demand take, at most the longest span. -/
def DemandSchedule.totalDuration (d : DemandSchedule) : Span :=
  d.steps.foldl (fun t s => t.addUpTo s.duration) .zero

/-- The demands to be played, by their source host. All of them start at the same time. -/
structure Schedule where
  hosts : OrderedMap Ipv4 (List DemandSchedule)

namespace Schedule

/-- How many aggregation intervals the last step of a demand lasts. -/
def lastStepFactor : Nat := 3

/-- The schedule without any demand. -/
def empty : Schedule := ⟨.empty⟩

instance : Inhabited Schedule := ⟨empty⟩

/-- The demands of a source host. -/
def host? (s : Schedule) (source : Ipv4) : Option (List DemandSchedule) := s.hosts.find? source

/-- The source hosts. -/
def sources (s : Schedule) : List Ipv4 := s.hosts.keys

/-- All demands, by their source. -/
def demands (s : Schedule) : List DemandSchedule := s.hosts.values.flatten

/-- The number of demands. -/
def size (s : Schedule) : Nat := s.demands.length

/-- Whether there is no demand. -/
def isEmpty (s : Schedule) : Bool := s.hosts.isEmpty

/-- The time until the last demand is done. -/
def totalDuration (s : Schedule) : Span :=
  (s.demands.map DemandSchedule.totalDuration).foldl Span.max .zero

/-- How long the last step of a demand with so many steps lasts, unless the demand as a whole takes
longer than a span can be. The number of the other steps has to fit into 32 bits. -/
def lastDuration? (interval : Span) (steps : Nat) : Option Span := do
  let others := steps - 1
  if UInt32.size ≤ others then none
  else
    let before ← interval.times? others
    let last ← interval.times? lastStepFactor
    let _ ← before.add? last
    return last

/-- The steps of a demand, of which the last one has a duration of its own. -/
def stepsOf (destination : Ipv4) (interval last : Span) : List Bandwidth → List TrafficStep
  | [] => []
  | [b] => [⟨destination, b, last⟩]
  | b :: bs => ⟨destination, b, interval⟩ :: stepsOf destination interval last bs

/-- The schedule of a demand. -/
def ofDemand (interval : Span) (d : Demand) : Except Fault DemandSchedule :=
  match lastDuration? interval d.bandwidths.length with
  | some last => .ok ⟨d.source, d.destination, stepsOf d.destination interval last d.bandwidths⟩
  | none => .error (.invalidDemand d.source d.destination .tooLong)

/-- Adds a demand behind the others of its source. -/
def add (s : Schedule) (d : DemandSchedule) : Schedule :=
  ⟨s.hosts.insert d.source ((s.hosts.find? d.source).getD [] ++ [d])⟩

/-- Schedules a list of demands, behind those scheduled already. -/
def addAll (interval : Span) : Schedule → List Demand → Except Fault Schedule
  | s, [] => .ok s
  | s, d :: ds => do addAll interval (s.add (← ofDemand interval d)) ds

/-- The schedule of a matrix for an aggregation interval. -/
def build (m : DemandMatrix) (interval : Span) : Except Fault Schedule := do
  if interval = .zero then throw .invalidInterval
  m.validate
  addAll interval .empty m.toList

end Schedule

end BackboneLab
