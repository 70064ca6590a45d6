import BackboneLab.HostCommand
import BackboneLab.Proofs.Configuration.Controller
import BackboneLab.Proofs.Configuration.Display
import BackboneLab.Proofs.Controller.Message
import BackboneLab.Proofs.Emulation.Documents
import BackboneLab.Proofs.Experiment.Bundle

/-!
# Whatever is exchanged is read back

The values that the programs of the lab hand to each other are read back from their documents, whatever
texts they hold. For those with numbers that have fractions this rests on the reader of numbers, so it is
said of the values whose numbers are read back exactly. The main statement is `exchanged_values_readBack`.
-/

namespace BackboneLab

theorem HostCommand.kept (c : HostCommand) : Kept c := by
  refine .of_members rfl (fun _ => rfl) (List.Sublist.refl _) (by decide) ?_
  rw [Fields.required_eq (x := c.program) rfl (kept_string _),
    Fields.required_eq (x := c.args) rfl (kept_list fun s _ => kept_string s)]
  rfl

theorem Substitute.kept (s : Substitute) : Kept s := by
  cases s with
  | afterLast => rfl
  | fixed index =>
    have hdecode : (decode (encode (Substitute.fixed index)).inJson : Option Substitute) =
      (decode (encode index).inJson).bind fun i => some (.fixed i) := rfl
    rw [Kept, hdecode, kept_uint64 index, Option.bind_some]

theorem ReservedIndex.kept (r : ReservedIndex) : Kept r := by
  refine .of_members rfl (fun _ => rfl) (List.Sublist.refl _) (by decide) ?_
  rw [Fields.required_eq (x := r.index) rfl (kept_uint64 _),
    Fields.required_eq (x := r.substitute) rfl r.substitute.kept]
  rfl

/-- The documents of everything that is exchanged, with or without blanks, give back the values they were
made of, provided that the numbers with fractions in them are read back exactly. -/
theorem exchanged_values_readBack :
    (∀ b : Bundle, (∀ x ∈ b.demandMatrix.bandwidths, ExactInJson x) → ReadBack b) ∧
      (∀ m : DemandMatrix, (∀ x ∈ m.bandwidths, ExactInJson x) → ReadBack m) ∧
      (∀ d : Demand, (∀ x ∈ d.bandwidths, ExactInJson x) → ReadBack d) ∧
      (∀ c : RoutingConfiguration, (∀ x ∈ c.weights, ExactInJson x) → ReadBack c) ∧
      (∀ c : NetworkConfig, ReadBack c) ∧
      (∀ d : DisplayHints, ReadBack d) ∧
      (∀ n : EmulatedNetwork, ReadBack n) ∧
      (∀ d : Daemon, ReadBack d) ∧
      (∀ c : HostCommand, ReadBack c) ∧
      (∀ r : ReservedIndex, ReadBack r) ∧
      (∀ i : Intent, ReadBack i) ∧
      (∀ s : TrafficSample, ReadBack s) ∧
      ∀ a : AnnouncedPrefixes, ReadBack a := by
  refine ⟨fun b h => ?_, fun m h => ?_, fun d h => ?_, fun c h => ?_, fun c => ?_, fun d => ?_,
    fun n => ?_, fun d => ?_, fun c => ?_, fun r => ?_, fun i => ?_, fun s => ?_, fun a => ?_⟩ <;>
    rw [readBack_iff_kept]
  · exact Bundle.kept_iff.2 h
  · exact DemandMatrix.kept_iff.2 h
  · exact Demand.kept_iff.2 h
  · exact RoutingConfiguration.kept h
  · exact c.kept
  · exact d.kept
  · exact n.kept
  · exact d.kept
  · exact c.kept
  · exact r.kept
  · exact i.kept
  · exact s.kept
  · exact a.kept

/-- A bundle and a configuration of the routing with fractions. -/
theorem exchanged_values_readBack_fractions :
    let demand : Demand := ⟨⟨192, 168, 1, 1⟩, ⟨192, 168, 2, 1⟩, [0.1, 2.5, 1e21]⟩
    let b : Bundle := ⟨.ofList [demand], true, 10, 1⟩
    let path : RoutingPath := ⟨["00000000000000a1", "\"\\\n"], 0.25⟩
    let c : RoutingConfiguration := ⟨7, [⟨.of24 ⟨10, 0, 1, 0⟩, .of24 ⟨10, 0, 2, 0⟩, [path]⟩]⟩
    (∀ x ∈ b.demandMatrix.bandwidths, ExactInJson x) ∧ ReadBack b ∧
      (∀ x ∈ c.weights, ExactInJson x) ∧ ReadBack c := by
  intro demand b path c
  have hbandwidths : ∀ x ∈ b.demandMatrix.bandwidths, ExactInJson x := by decide +kernel
  have hweights : ∀ x ∈ c.weights, ExactInJson x := by decide +kernel
  obtain ⟨hbundle, -, -, hrouting, -⟩ := exchanged_values_readBack
  exact ⟨hbandwidths, hbundle b hbandwidths, hweights, hrouting c hweights⟩

end BackboneLab
