import BackboneLab.Configuration.Display
import BackboneLab.Proofs.Document.Wire

/-!
# The display hints are read back

`DisplayHints.kept` puts together that every displayed host is read from what JSON keeps of its tree.
-/

namespace BackboneLab

theorem DisplayAnnotations.kept (a : DisplayAnnotations) : Kept a := by
  refine .of_members rfl (fun _ => rfl) (List.Sublist.refl _) (by decide) ?_
  rw [Fields.required_eq (x := a.kind) rfl (kept_string _)]
  rfl

theorem DisplayHost.kept (h : DisplayHost) : Kept h := by
  refine .of_members rfl (fun _ => rfl) (List.Sublist.refl _) (by decide) ?_
  rw [Fields.required_eq (α := DisplayAnnotations) rfl (DisplayAnnotations.kept _),
    Fields.required_eq (x := h.mac) rfl (kept_string _),
    Fields.required_eq (x := h.vlan) rfl (kept_int32 _),
    Fields.required_eq (x := h.location) rfl (kept_string _),
    Fields.required_eq (x := h.ip) rfl (kept_string _)]
  rfl

theorem DisplayHints.kept (d : DisplayHints) : Kept d := by
  refine .of_members rfl (fun _ => rfl) (List.Sublist.refl _) (by decide) ?_
  rw [Fields.required_eq (x := d.hosts) rfl (kept_list fun h _ => h.kept)]
  rfl

end BackboneLab
