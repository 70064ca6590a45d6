import BackboneLab.Traffic.Schedule

/-!
# Experiment bundles

Everything that an experiment is to play: the traffic matrix, the length of its intervals, the network
to play it on, and the variant, which decides whether the matrix is played twice in a row.
-/

namespace BackboneLab

/-- What an experiment is to play. -/
structure Bundle where
  demandMatrix : DemandMatrix
  /-- Whether the tutorial network is used. -/
  useAlternateTopology : Bool
  /-- The length of an interval in seconds. -/
  aggregationInterval : UInt64
  variant : UInt32
deriving Inhabited

namespace Bundle

/-- The variants that play the matrix twice in a row. -/
def doubledVariants : List UInt32 := [1, 2]

/-- The matrix that is played. -/
def matrix (b : Bundle) : DemandMatrix :=
  if b.variant ∈ doubledVariants then b.demandMatrix.doubled else b.demandMatrix

/-- The length of an interval. -/
def interval (b : Bundle) : Span := .ofSeconds b.aggregationInterval

/-- The schedule of the matrix that is played. -/
def schedule (b : Bundle) : Except Fault Schedule := Schedule.build b.matrix b.interval

instance : Wire Bundle where
  encode b := .object
    [("demandMatrix", encode b.demandMatrix), ("useAlternateTopology", encode b.useAlternateTopology),
      ("aggregationInterval", encode b.aggregationInterval), ("variant", encode b.variant)]
  decode t := do
    let f ← Fields.ofDatum?
      ["demandMatrix", "useAlternateTopology", "aggregationInterval", "variant"] t
    return ⟨← f.required "demandMatrix", ← f.withDefault "useAlternateTopology" false,
      ← f.required "aggregationInterval", ← f.withDefault "variant" 0⟩

end Bundle

end BackboneLab
