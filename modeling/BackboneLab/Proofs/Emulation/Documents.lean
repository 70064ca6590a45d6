import BackboneLab.Emulation.Daemon
import BackboneLab.Proofs.Document.Wire

/-!
# Networks and daemons are read back

`EmulatedNetwork.kept` and `Daemon.kept` put together that every part of an emulated network and every
daemon is read from what JSON keeps of its tree.
-/

namespace BackboneLab

theorem Switch.kept (s : Switch) : Kept s := by
  refine .of_members rfl (fun _ => rfl) (List.Sublist.refl _) (by decide) ?_
  rw [Fields.required_eq (x := s.name) rfl (kept_string _),
    Fields.required_eq (x := s.datapath) rfl (kept_string _)]
  rfl

theorem Interface.kept (i : Interface) : Kept i := by
  refine .of_members rfl (fun _ => rfl) (List.Sublist.refl _) (by decide) ?_
  rw [Fields.required_eq (x := i.name) rfl (kept_string _),
    Fields.optional_eq (o := i.mac) rfl (kept_option_string _),
    Fields.required_eq (x := i.addrs) rfl (kept_list fun s _ => kept_subnet s)]
  rfl

theorem Router.kept (r : Router) : Kept r := by
  refine .of_members rfl (fun _ => rfl) (List.Sublist.refl _) (by decide) ?_
  rw [Fields.required_eq (x := r.name) rfl (kept_string _),
    Fields.required_eq (x := r.interfaces) rfl (kept_list fun i _ => i.kept),
    Fields.optional_eq (o := r.defaultRoute) rfl (kept_option kept_ipv4 (fun _ => nofun) _),
    Fields.required_eq (x := r.bgpdConfig) rfl (kept_path _),
    Fields.required_eq (x := r.zebraConfig) rfl (kept_path _),
    Fields.required_eq (x := r.inNamespace) rfl (kept_bool _)]
  rfl

theorem Host.kept (h : Host) : Kept h := by
  refine .of_members rfl (fun _ => rfl) (List.Sublist.refl _) (by decide) ?_
  rw [Fields.required_eq (x := h.name) rfl (kept_string _),
    Fields.required_eq (x := h.addr) rfl (kept_subnet _),
    Fields.required_eq (x := h.gateway) rfl (kept_ipv4 _)]
  rfl

theorem Link.kept (l : Link) : Kept l := by
  refine .of_members rfl (fun _ => rfl) (List.Sublist.refl _) (by decide) ?_
  rw [Fields.required_eq (x := l.a) rfl (kept_string _),
    Fields.required_eq (x := l.b) rfl (kept_string _)]
  rfl

theorem EmulatedNetwork.kept (n : EmulatedNetwork) : Kept n := by
  refine .of_members rfl (fun _ => rfl) (List.Sublist.refl _) (by decide) ?_
  rw [Fields.required_eq (x := n.switches) rfl (kept_list fun s _ => s.kept),
    Fields.required_eq (x := n.routers) rfl (kept_list fun r _ => r.kept),
    Fields.required_eq (x := n.hosts) rfl (kept_list fun h _ => h.kept),
    Fields.required_eq (x := n.speaker) rfl n.speaker.kept,
    Fields.required_eq (x := n.links) rfl (kept_list fun l _ => l.kept)]
  rfl

theorem DaemonKind.kept (k : DaemonKind) : Kept k := by
  cases k <;> rfl

theorem Daemon.kept (d : Daemon) : Kept d := by
  refine .of_members rfl (fun _ => rfl) (List.Sublist.refl _) (by decide) ?_
  rw [Fields.required_eq (x := d.router) rfl (kept_string _),
    Fields.required_eq (x := d.kind) rfl d.kind.kept,
    Fields.required_eq (x := d.program) rfl (kept_path _),
    Fields.required_eq (x := d.config) rfl (kept_path _),
    Fields.required_eq (x := d.apiSocket) rfl (kept_path _),
    Fields.required_eq (x := d.pidFile) rfl (kept_path _),
    Fields.required_eq (x := d.inNamespace) rfl (kept_bool _)]
  rfl

end BackboneLab
