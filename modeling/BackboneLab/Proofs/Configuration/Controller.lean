import BackboneLab.Configuration.Controller
import BackboneLab.Proofs.Document.Wire

/-!
# The controller's network configuration is read back

`NetworkConfig.kept` puts together that every part of the configuration is read from what JSON keeps of
its tree.
-/

namespace BackboneLab

theorem PortInterface.kept (i : PortInterface) : Kept i := by
  refine .of_members rfl (fun _ => rfl) (List.Sublist.refl _) (by decide) ?_
  rw [Fields.required_eq (x := i.name) rfl (kept_string _),
    Fields.required_eq (x := i.ips) rfl (kept_list fun s _ => kept_subnet s),
    Fields.required_eq (x := i.mac) rfl (kept_string _)]
  rfl

theorem PortConfig.kept (p : PortConfig) : Kept p := by
  refine .of_members rfl (fun _ => rfl) (List.Sublist.refl _) (by decide) ?_
  rw [Fields.required_eq (x := p.interfaces) rfl (kept_list fun i _ => i.kept)]
  rfl

theorem BgpSpeaker.kept (s : BgpSpeaker) : Kept s := by
  refine .of_members rfl (fun _ => rfl) (List.Sublist.refl _) (by decide) ?_
  rw [Fields.required_eq (x := s.name) rfl (kept_string _),
    Fields.required_eq (x := s.connectPoint) rfl (kept_string _),
    Fields.required_eq (x := s.peers) rfl (kept_list fun a _ => kept_ipv4 a)]
  rfl

theorem SpeakerList.kept (l : SpeakerList) : Kept l := by
  refine .of_members rfl (fun _ => rfl) (List.Sublist.refl _) (by decide) ?_
  rw [Fields.required_eq (x := l.speakers) rfl (kept_list fun s _ => s.kept)]
  rfl

theorem RouterApp.kept (a : RouterApp) : Kept a := by
  refine .of_members rfl (fun _ => rfl) (List.Sublist.refl _) (by decide) ?_
  rw [Fields.required_eq (x := a.bgp) rfl a.bgp.kept]
  rfl

theorem FlowProviderApp.kept (a : FlowProviderApp) : Kept a := by
  refine .of_members rfl (fun _ => rfl) (List.Sublist.refl _) (by decide) ?_
  rw [Fields.required_eq (x := a.flowPollFrequency) rfl (kept_uint32 _)]
  rfl

/-- A provider without a setting is left out of the document, and is missing when it is read. -/
theorem AppsConfig.kept (a : AppsConfig) : Kept a := by
  obtain ⟨router, provider⟩ := a
  cases provider with
  | none =>
    refine .of_members rfl (fun _ => rfl) (List.sublist_append_left [_] [_]) (by decide) ?_
    rw [Fields.required_eq (x := router) rfl router.kept]
    rfl
  | some p =>
    refine .of_members rfl (fun _ => rfl) (List.Sublist.refl _) (by decide) ?_
    rw [Fields.required_eq (x := router) rfl router.kept,
      Fields.withDefault_eq (x := some p) rfl (kept_some p.kept (fun h => nomatch h))]
    rfl

theorem NetworkConfig.kept (c : NetworkConfig) : Kept c := by
  refine .of_members rfl (fun _ => rfl) (List.Sublist.refl _) (by decide) ?_
  rw [Fields.required_eq (x := c.ports) rfl (kept_map fun e _ => e.2.kept),
    Fields.required_eq (α := AppsConfig) rfl (AppsConfig.kept _)]
  obtain ⟨ports, speakers, flowPollFrequency⟩ := c
  cases flowPollFrequency <;> rfl

end BackboneLab
