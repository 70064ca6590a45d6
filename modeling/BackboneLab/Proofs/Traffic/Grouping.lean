import BackboneLab.Proofs.Traffic.Feasibility

/-!
# Demands by their source

A schedule keeps its demands in groups, one for each source host. No group is empty and every demand is
in the group of its source (`Schedule.IsGrouped`): adding a demand keeps this, and so does scheduling a
matrix. Hence the group of a source is what is left of all demands if those of the other sources are
passed over (`Schedule.filter_demands`). `Schedule.HoldsTraffic` says what a schedule holds of a matrix,
and the main statement is `schedule_holds_traffic`.
-/

namespace BackboneLab

open Std

/-- The demand that is scheduled. -/
def DemandSchedule.demand (x : DemandSchedule) : Demand :=
  ⟨x.source, x.destination, x.steps.map TrafficStep.bandwidth⟩

namespace Schedule

/-! ## Groups -/

/-- Every group of demands has a member, and all of its members have its source. -/
def IsGrouped (s : Schedule) : Prop :=
  ∀ group ∈ s.hosts.entries, group.2 ≠ [] ∧ ∀ x ∈ group.2, x.source = group.1

theorem isGrouped_empty : IsGrouped .empty := nofun

/-- A demand is added to the group of its source, or makes up a new one. -/
theorem IsGrouped.add {s : Schedule} (h : s.IsGrouped) (d : DemandSchedule) : (s.add d).IsGrouped := by
  intro group hgroup
  rcases mem_of_mem_insertEntry hgroup with rfl | hold
  · refine ⟨List.append_ne_nil_of_right_ne_nil _ (List.cons_ne_nil d []), fun x hx => ?_⟩
    rcases List.mem_append.1 hx with hx | hx
    · cases hfind : s.hosts.find? d.source with
      | none =>
        rw [hfind] at hx
        cases hx
      | some xs =>
        rw [hfind] at hx
        exact (h _ (OrderedMap.find?_eq_some_iff.1 hfind)).2 x hx
    · rw [List.mem_singleton.1 hx]
  · exact h group hold

theorem IsGrouped.addAll {interval : Span} {ds : List Demand} {s s' : Schedule} (hs : s.IsGrouped)
    (h : Schedule.addAll interval s ds = .ok s') : s'.IsGrouped := by
  induction ds generalizing s with
  | nil =>
    cases h
    exact hs
  | cons d ds ih =>
    cases hx : ofDemand interval d with
    | error f =>
      rw [Schedule.addAll, hx] at h
      cases h
    | ok x =>
      rw [Schedule.addAll, hx] at h
      exact ih (hs.add x) h

/-- Among groups in the order of their sources, the demands of one source are those of its group. -/
theorem filter_flatten {es : List (Ipv4 × List DemandSchedule)}
    (hsorted : es.Pairwise fun x y => compare x.1 y.1 = .lt)
    (hgrouped : ∀ e ∈ es, ∀ x ∈ e.2, x.source = e.1) (source : Ipv4) :
    (es.map (·.2)).flatten.filter (fun x => x.source = source) = (findEntry source es).getD [] := by
  induction es with
  | nil => rfl
  | cons e es ih =>
    obtain ⟨hlater, hsorted⟩ := List.pairwise_cons.1 hsorted
    obtain ⟨hhead, hgrouped⟩ := List.forall_mem_cons.1 hgrouped
    rw [List.map_cons, List.flatten_cons, List.filter_append, findEntry]
    by_cases heq : source = e.1
    · have hself : e.2.filter (fun x => x.source = source) = e.2 :=
        List.filter_eq_self.2 fun x hx => decide_eq_true ((hhead x hx).trans heq.symm)
      -- the groups behind have greater sources
      have hothers : (es.map (·.2)).flatten.filter (fun x => x.source = source) = [] := by
        refine List.filter_eq_nil_iff.2 fun x hx hsource => ?_
        obtain ⟨xs, hxs, hx⟩ := List.mem_flatten.1 hx
        obtain ⟨e', he', rfl⟩ := List.mem_map.1 hxs
        have hlt := hlater e' he'
        have hself : compare e.1 e.1 = .eq := ReflCmp.compare_self
        rw [← hgrouped e' he' x hx, of_decide_eq_true hsource, heq, hself] at hlt
        cases hlt
      rw [hself, hothers, List.append_nil, if_pos (heq ▸ ReflCmp.compare_self)]
      rfl
    · have hnone : e.2.filter (fun x => x.source = source) = [] :=
        List.filter_eq_nil_iff.2 fun x hx hsource =>
          heq ((of_decide_eq_true hsource).symm.trans (hhead x hx))
      rw [hnone, List.nil_append, ih hsorted hgrouped,
        if_neg fun h => heq (LawfulEqCmp.eq_of_compare h)]

/-- The group of a source has all demands of this source, in the same order. -/
theorem IsGrouped.filter_demands {s : Schedule} (h : s.IsGrouped) (source : Ipv4) :
    s.demands.filter (fun x => x.source = source) = (s.host? source).getD [] :=
  filter_flatten s.hosts.ordered (fun e he => (h e he).2) source

/-- There is a group for every source of a demand, and for no other host. -/
theorem IsGrouped.isSome_host?_iff {s : Schedule} (h : s.IsGrouped) {source : Ipv4} :
    (s.host? source).isSome ↔ ∃ x ∈ s.demands, x.source = source := by
  have hfilter := h.filter_demands source
  constructor
  · intro hsome
    obtain ⟨xs, hxs⟩ := Option.isSome_iff_exists.1 hsome
    obtain ⟨x, hx⟩ := List.exists_mem_of_ne_nil xs (h _ (OrderedMap.find?_eq_some_iff.1 hxs)).1
    rw [hxs] at hfilter
    have hx : x ∈ s.demands.filter fun x => x.source = source := hfilter ▸ hx
    exact ⟨x, (List.mem_filter.1 hx).1, of_decide_eq_true (List.mem_filter.1 hx).2⟩
  · rintro ⟨x, hx, hsource⟩
    have hmem : x ∈ s.demands.filter fun x => x.source = source :=
      List.mem_filter.2 ⟨hx, decide_eq_true hsource⟩
    rw [hfilter] at hmem
    cases hhost : s.host? source with
    | none =>
      rw [hhost] at hmem
      cases hmem
    | some xs => rfl

/-- Without demands there are no groups. -/
theorem IsGrouped.isEmpty_iff {s : Schedule} (h : s.IsGrouped) : s.isEmpty = true ↔ s.demands = [] := by
  constructor
  · intro hempty
    rw [demands, OrderedMap.values, List.isEmpty_iff.1 hempty]
    rfl
  · intro hnone
    refine List.isEmpty_iff.2 (List.eq_nil_iff_forall_not_mem.2 fun group hgroup => ?_)
    obtain ⟨x, hx⟩ := List.exists_mem_of_ne_nil _ (h group hgroup).1
    have hmem : x ∈ s.demands := List.mem_flatten.2 ⟨group.2, List.mem_map_of_mem hgroup, hx⟩
    rw [hnone] at hmem
    cases hmem

/-! ## The schedule of a matrix -/

section
variable {m : DemandMatrix} {interval : Span} {s : Schedule}

theorem isGrouped_of_build (h : build m interval = .ok s) : s.IsGrouped :=
  isGrouped_empty.addAll (addAll_of_build h)

/-- The steps of a demand have its bandwidths. -/
theorem bandwidths_stepsOf (destination : Ipv4) (interval last : Span) (bs : List Bandwidth) :
    (stepsOf destination interval last bs).map TrafficStep.bandwidth = bs :=
  calc (stepsOf destination interval last bs).map TrafficStep.bandwidth
    _ = ((stepsOf destination interval last bs).map fun step =>
          (step.destination, step.bandwidth)).map Prod.snd := by rw [List.map_map]; rfl
    _ = (bs.map fun b => (destination, b)).map Prod.snd :=
          congrArg _ (map_bandwidth_stepsOf destination last bs)
    _ = bs := (List.map_map ..).trans (List.map_id bs)

/-- A demand is scheduled as it is. -/
theorem demand_ofDemand {d : Demand} {x : DemandSchedule} (h : ofDemand interval d = .ok x) :
    x.demand = d := by
  obtain ⟨last, -, rfl⟩ := ofDemand_eq_ok h
  exact congrArg (Demand.mk d.source d.destination) (bandwidths_stepsOf ..)

/-- The scheduled demands are those of the matrix, with their bandwidths and in the same order. -/
theorem map_demand_demands (h : build m interval = .ok s) :
    s.demands.map DemandSchedule.demand = m.toList :=
  (map_eq_of_forall₂ (build_forall₂ h) demand_ofDemand).trans (List.map_id _)

/-- The demands of one source are scheduled in the order of their destinations. -/
theorem pairwise_destination (h : build m interval = .ok s) (source : Ipv4) :
    (s.demands.filter fun x => x.source = source).Pairwise fun x y =>
      compare x.destination y.destination = .lt := by
  have hkeys : (s.demands.map DemandSchedule.hosts).Pairwise fun p q => compare p q = .lt := by
    rw [map_hosts_demands h]
    exact List.pairwise_map.2 m.series.ordered
  refine ((List.pairwise_map.1 hkeys).filter _).imp_of_mem fun {x y} hx hy hlt => ?_
  have hthen : (compare x.source y.source).then (compare x.destination y.destination) = .lt := hlt
  have heq : compare source source = .eq := ReflCmp.compare_self
  rw [of_decide_eq_true (List.mem_filter.1 hx).2, of_decide_eq_true (List.mem_filter.1 hy).2,
    heq] at hthen
  exact hthen

end

/-- What a schedule holds of a matrix: its demands with all their bandwidths, each of them once and all in
the same order, in one group for every source. -/
structure HoldsTraffic (m : DemandMatrix) (s : Schedule) : Prop where
  demands : s.demands.map DemandSchedule.demand = m.toList
  destination : ∀ x ∈ s.demands, ∀ step ∈ x.steps, step.destination = x.destination
  sources : s.sources.Pairwise fun a b => compare a b = .lt
  isSome_host? : ∀ source, (s.host? source).isSome ↔ ∃ d ∈ m.toList, d.source = source
  host? : ∀ source xs, s.host? source = some xs → xs ≠ [] ∧
    xs = s.demands.filter (fun x => x.source = source) ∧
    xs.Pairwise fun x y => compare x.destination y.destination = .lt
  size : s.size = m.size
  isEmpty : s.isEmpty = m.isEmpty

end Schedule

/-- Scheduling loses no traffic, doubles none and changes no order. -/
theorem schedule_holds_traffic {m : DemandMatrix} {interval : Span} {s : Schedule}
    (h : Schedule.build m interval = .ok s) : s.HoldsTraffic m := by
  have hgrouped := Schedule.isGrouped_of_build h
  have hdemands := Schedule.map_demand_demands h
  have hlength : s.demands.length = m.toList.length := by rw [← hdemands, List.length_map]
  have hentries : m.toList.length = m.series.entries.length := List.length_map _
  refine ⟨hdemands, fun x hx step hstep => Schedule.destination_of_mem_steps h hx hstep,
    List.pairwise_map.2 s.hosts.ordered, fun source => ?_, fun source xs hxs => ?_,
    hlength.trans hentries, ?_⟩
  · simp only [hgrouped.isSome_host?_iff, ← hdemands, List.mem_map, exists_exists_and_eq_and]
    rfl
  · have hfilter := hgrouped.filter_demands source
    rw [hxs] at hfilter
    have hxs' : s.demands.filter (fun x => x.source = source) = xs := hfilter
    refine ⟨(hgrouped _ (OrderedMap.find?_eq_some_iff.1 hxs)).1, hxs'.symm, ?_⟩
    exact hxs' ▸ Schedule.pairwise_destination h source
  · rw [Bool.eq_iff_iff, hgrouped.isEmpty_iff, ← List.length_eq_zero_iff, hlength, hentries,
      List.length_eq_zero_iff]
    exact List.isEmpty_iff.symm

/-- Two sources share a destination, and the second one of them sends to a second host as well. -/
theorem schedule_holds_traffic_two_sources :
    let h (k : UInt8) : Ipv4 := ⟨192, 168, k, 1⟩
    let m := DemandMatrix.ofList [⟨h 9, h 6, [2, 2]⟩, ⟨h 8, h 10, [2]⟩, ⟨h 8, h 6, [5, 4]⟩]
    ∃ s, Schedule.build m (.ofSeconds 10) = .ok s ∧ s.sources = [h 8, h 9] ∧ s.HoldsTraffic m := by
  intro h m
  have hsources : ((Schedule.build m (.ofSeconds 10)).map Schedule.sources).toOption =
      some [h 8, h 9] := by decide +kernel
  cases hs : Schedule.build m (.ofSeconds 10) with
  | error f =>
    rw [hs] at hsources
    cases hsources
  | ok s =>
    rw [hs] at hsources
    exact ⟨s, rfl, Option.some.inj hsources, schedule_holds_traffic hs⟩

end BackboneLab
