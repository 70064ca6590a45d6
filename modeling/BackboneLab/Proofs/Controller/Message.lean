import BackboneLab.Controller.Message
import BackboneLab.Proofs.Document.Wire

/-!
# The messages of the controller are read back

Members that may be missing are written as missing values, which are read like members that were left
out. The two networks of a route are written as a list of two, and only such a list is read as a route.
-/

namespace BackboneLab

theorem Intent.kept (i : Intent) : Kept i := by
  refine .of_members rfl (fun _ => rfl) (List.Sublist.refl _) (by decide) ?_
  rw [Fields.required_eq (x := i.id) rfl (kept_string _),
    Fields.withDefault_eq (x := i.key) rfl (kept_option_string _),
    Fields.required_eq (x := i.kind) rfl (kept_string _),
    Fields.withDefault_eq (x := i.appId) rfl (kept_option_string _),
    Fields.withDefault_eq (x := i.state) rfl (kept_option_string _)]
  rfl

theorem TrafficSample.kept (s : TrafficSample) : Kept s := by
  refine .of_members rfl (fun _ => rfl) (List.Sublist.refl _) (by decide) ?_
  rw [Fields.required_eq (x := s.timestamp) rfl (kept_uint64 _),
    Fields.required_eq (x := s.demand) rfl (kept_string _),
    Fields.required_eq (x := s.bytes) rfl (kept_uint64 _)]
  rfl

theorem AnnouncedPrefixes.kept (a : AnnouncedPrefixes) : Kept a := by
  refine .of_members rfl (fun _ => rfl) (List.Sublist.refl _) (by decide) ?_
  rw [Fields.required_eq (x := a.connectPoint) rfl (kept_string _),
    Fields.required_eq (x := a.networks) rfl (kept_list fun n _ => kept_subnet n)]
  rfl

/-! ## Configurations of the routing -/

theorem RoutingPath.kept {p : RoutingPath} (h : ExactInJson p.weight) : Kept p := by
  refine .of_members rfl (fun _ => rfl) (List.Sublist.refl _) (by decide) ?_
  rw [Fields.required_eq (x := p.path) rfl (kept_list fun s _ => kept_string s),
    Fields.required_eq (x := p.weight) rfl (kept_float_iff.2 h)]
  rfl

theorem Route.kept {r : Route} (h : ∀ p ∈ r.paths, ExactInJson p.weight) : Kept r := by
  refine .of_members rfl (fun _ => rfl) (List.Sublist.refl _) (by decide) ?_
  rw [Fields.required_eq (x := [r.source, r.destination]) rfl (kept_list fun n _ => kept_subnet n),
    Fields.required_eq (x := r.paths) rfl (kept_list fun p hp => RoutingPath.kept (h p hp))]
  rfl

/-- The weights of all paths of a configuration. -/
def RoutingConfiguration.weights (c : RoutingConfiguration) : List Float :=
  c.routes.flatMap fun r => r.paths.map RoutingPath.weight

theorem RoutingConfiguration.kept {c : RoutingConfiguration} (h : ∀ x ∈ c.weights, ExactInJson x) :
    Kept c := by
  have hroutes : ∀ r ∈ c.routes, Kept r := fun r hr => Route.kept fun p hp =>
    h _ (List.mem_flatMap.2 ⟨r, hr, List.mem_map_of_mem hp⟩)
  refine .of_members rfl (fun _ => rfl) (List.Sublist.refl _) (by decide) ?_
  rw [Fields.required_eq (x := c.id) rfl (kept_uint32 _),
    Fields.required_eq (x := c.routes) rfl (kept_list hroutes)]
  rfl

end BackboneLab
