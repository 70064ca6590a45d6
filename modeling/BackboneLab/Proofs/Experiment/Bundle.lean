import BackboneLab.Experiment.Bundle
import BackboneLab.Proofs.Traffic.Matrix

/-!
# Bundles are read back

The two members of a bundle that have defaults are always written, so only the bandwidths of its matrix
decide whether a bundle is kept (`Bundle.kept_iff`).
-/

namespace BackboneLab.Bundle

/-- Everything but the matrix of a bundle is always read back. -/
theorem decode_inJson (b : Bundle) : (decode (encode b).inJson : Option Bundle) =
    (decode (encode b.demandMatrix).inJson).map fun m => { b with demandMatrix := m } := by
  have hmembers := decode_inJson_object (x := b) rfl (fun _ => rfl)
    (List.Sublist.refl ["demandMatrix", "useAlternateTopology", "aggregationInterval", "variant"])
    (by decide)
  rw [Fields.withDefault_eq (x := b.useAlternateTopology) rfl (kept_bool _),
    Fields.required_eq (x := b.aggregationInterval) rfl (kept_uint64 _),
    Fields.withDefault_eq (x := b.variant) rfl (kept_uint32 _)] at hmembers
  rw [hmembers, Option.map_eq_bind]
  rfl

theorem kept_iff {b : Bundle} : Kept b ↔ ∀ x ∈ b.demandMatrix.bandwidths, ExactInJson x := by
  rw [← DemandMatrix.kept_iff, Kept, decode_inJson, Option.map_eq_some_iff]
  constructor
  · rintro ⟨m, hkept, heq⟩
    have hm : m = b.demandMatrix := congrArg demandMatrix heq
    exact hm ▸ hkept
  · intro hkept
    exact ⟨_, hkept, rfl⟩

end BackboneLab.Bundle
