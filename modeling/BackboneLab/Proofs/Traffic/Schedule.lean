import BackboneLab.Proofs.Traffic.Matrix
import BackboneLab.Traffic.Schedule
import Mathlib.Data.List.Forall2

/-!
# The demands of a schedule

A schedule holds its demands by their source, and a matrix lists its demands in the order of their
sources, so each of them is added behind all others (`Schedule.demands_add`). Hence the demands of a
schedule are those of its matrix in the same order (`Schedule.build_forall₂`): every pair of hosts is
scheduled at most once (`Schedule.hosts_nodup`).
-/

namespace BackboneLab

open Std

/-- The hosts of a scheduled demand. -/
def DemandSchedule.hosts (d : DemandSchedule) : HostPair := ⟨d.source, d.destination⟩

/-- Of two lists that match item by item, every item of the second one matches one of the first. -/
theorem exists_of_mem_forall₂ {α β : Type} {R : α → β → Prop} {as : List α} {bs : List β}
    (h : List.Forall₂ R as bs) {b : β} (hb : b ∈ bs) : ∃ a ∈ as, R a b := by
  induction h with
  | nil => cases hb
  | @cons a _ _ _ ha _ ih =>
    rcases List.mem_cons.1 hb with rfl | hb
    · exact ⟨a, List.mem_cons_self, ha⟩
    · obtain ⟨a', hmem, ha'⟩ := ih hb
      exact ⟨a', List.mem_cons_of_mem _ hmem, ha'⟩

/-- Functions that agree on items that match take the same values on lists that match item by item. -/
theorem map_eq_of_forall₂ {α β γ : Type} {R : α → β → Prop} {f : α → γ} {g : β → γ} {as : List α}
    {bs : List β} (h : List.Forall₂ R as bs) (hR : ∀ {a b}, R a b → g b = f a) : bs.map g = as.map f := by
  induction h with
  | nil => rfl
  | cons hab _ ih => rw [List.map_cons, List.map_cons, hR hab, ih]

/-! ## The order of the demands of a matrix -/

/-- Two demands whose sources are in order, of which the first may have the same source. -/
def Demand.SourceLe (d d' : Demand) : Prop := compare d.source d'.source ≠ .gt

theorem HostPair.compare_source_ne_gt {p q : HostPair} (h : compare p q = .lt) :
    compare p.source q.source ≠ .gt := by
  intro hgt
  have hthen : (compare p.source q.source).then (compare p.destination q.destination) = .lt := h
  rw [hgt] at hthen
  cases hthen

namespace DemandMatrix

/-- The demands of a matrix are listed in the order of their sources. -/
theorem pairwise_toList (m : DemandMatrix) : m.toList.Pairwise Demand.SourceLe :=
  List.pairwise_map.2 (m.series.ordered.imp HostPair.compare_source_ne_gt)

end DemandMatrix

namespace Schedule

/-! ## Adding a demand -/

/-- A demand that is added to the last of the groups, or behind them, stands behind all others. -/
theorem flatten_insertEntry {k : Ipv4} (d : DemandSchedule) {es : List (Ipv4 × List DemandSchedule)}
    (hsorted : es.Pairwise fun x y => compare x.1 y.1 = .lt) (h : ∀ e ∈ es, compare e.1 k ≠ .gt) :
    ((insertEntry k ((findEntry k es).getD [] ++ [d]) es).map (·.2)).flatten =
      (es.map (·.2)).flatten ++ [d] := by
  induction es with
  | nil => rfl
  | cons e es ih =>
    obtain ⟨hfirst, hrest⟩ := List.pairwise_cons.1 hsorted
    rw [insertEntry, findEntry]
    cases hk : compare k e.1 with
    | lt => exact absurd (OrientedCmp.gt_of_lt hk) (h e List.mem_cons_self)
    | eq =>
      -- the group of `k` is the last one, since no later key is greater than `k`
      have hlast : es = [] := by
        refine List.eq_nil_iff_forall_not_mem.2 fun e' he' => ?_
        have heq : k = e.1 := LawfulEqCmp.eq_of_compare hk
        have hlt := hfirst e' he'
        rw [← heq] at hlt
        exact h e' (List.mem_cons_of_mem _ he') (OrientedCmp.gt_of_lt hlt)
      simp [hlast]
    | gt =>
      have hrest' := ih hrest fun e' he' => h e' (List.mem_cons_of_mem _ he')
      rw [if_neg (by decide)]
      simp only [List.map_cons, List.flatten_cons, List.append_assoc, hrest']

/-- A demand whose source is not smaller than any other stands behind all others. -/
theorem demands_add {s : Schedule} {d : DemandSchedule}
    (h : ∀ k ∈ s.sources, compare k d.source ≠ .gt) : (s.add d).demands = s.demands ++ [d] :=
  flatten_insertEntry d s.hosts.ordered fun _ he => h _ (List.mem_map_of_mem he)

theorem mem_sources_add {s : Schedule} {d : DemandSchedule} {k : Ipv4}
    (h : k ∈ (s.add d).sources) : k = d.source ∨ k ∈ s.sources := by
  obtain ⟨e, he, rfl⟩ := List.mem_map.1 h
  rcases mem_of_mem_insertEntry he with rfl | he
  · exact .inl rfl
  · exact .inr (List.mem_map_of_mem he)

/-! ## Scheduling a matrix -/

theorem ofDemand_eq_ok {interval : Span} {d : Demand} {x : DemandSchedule}
    (h : ofDemand interval d = .ok x) :
    ∃ last, lastDuration? interval d.bandwidths.length = some last ∧
      x = ⟨d.source, d.destination, stepsOf d.destination interval last d.bandwidths⟩ := by
  unfold ofDemand at h
  split at h
  next last hlast =>
    cases h
    exact ⟨last, hlast, rfl⟩
  · cases h

theorem hosts_ofDemand {interval : Span} {d : Demand} {x : DemandSchedule}
    (h : ofDemand interval d = .ok x) : x.hosts = d.hosts := by
  obtain ⟨last, -, rfl⟩ := ofDemand_eq_ok h
  rfl

/-- All steps of a demand go to its destination. -/
theorem destination_of_mem_stepsOf {destination : Ipv4} {interval last : Span} {bs : List Bandwidth}
    {step : TrafficStep} (h : step ∈ stepsOf destination interval last bs) :
    step.destination = destination := by
  induction bs with
  | nil => cases h
  | cons b bs ih =>
    cases bs with
    | nil =>
      rw [stepsOf, List.mem_singleton] at h
      rw [h]
    | cons b' bs =>
      rw [stepsOf] at h
      · rcases List.mem_cons.1 h with rfl | h
        · rfl
        · exact ih h
      · simp

/-- Demands in the order of their sources are scheduled in this order, behind those scheduled already,
whose sources are not greater. -/
theorem addAll_eq_ok {interval : Span} {ds : List Demand} {s s' : Schedule}
    (h : addAll interval s ds = .ok s') (hds : ds.Pairwise Demand.SourceLe)
    (hs : ∀ k ∈ s.sources, ∀ d ∈ ds, compare k d.source ≠ .gt) :
    ∃ xs, s'.demands = s.demands ++ xs ∧
      List.Forall₂ (fun d x => ofDemand interval d = .ok x) ds xs := by
  induction ds generalizing s with
  | nil =>
    cases h
    exact ⟨[], (List.append_nil _).symm, .nil⟩
  | cons d ds ih =>
    obtain ⟨hfirst, hrest⟩ := List.pairwise_cons.1 hds
    cases hx : ofDemand interval d with
    | error f =>
      rw [addAll, hx] at h
      cases h
    | ok x =>
      rw [addAll, hx] at h
      have hsource : x.source = d.source := congrArg HostPair.source (hosts_ofDemand hx)
      obtain ⟨xs, hdemands, hxs⟩ := ih h hrest fun k hk d' hd' => by
        rcases mem_sources_add hk with rfl | hk
        · exact hsource ▸ hfirst d' hd'
        · exact hs k hk d' (List.mem_cons_of_mem _ hd')
      refine ⟨x :: xs, ?_, .cons hx hxs⟩
      rw [hdemands, demands_add, List.append_assoc, List.singleton_append]
      exact fun k hk => hsource ▸ hs k hk d List.mem_cons_self

section
variable {m : DemandMatrix} {interval : Span} {s : Schedule}

/-- A schedule is made up of the demands of its matrix, one after the other. -/
theorem addAll_of_build (h : build m interval = .ok s) :
    addAll interval .empty m.toList = .ok s := by
  unfold build at h
  split at h
  · cases h
  · cases hvalid : m.validate with
    | error f => rw [hvalid] at h; cases h
    | ok _ => rw [hvalid] at h; exact h

/-- The demands of a schedule are those of its matrix, in the same order. -/
theorem build_forall₂ (h : build m interval = .ok s) :
    List.Forall₂ (fun d x => ofDemand interval d = .ok x) m.toList s.demands := by
  obtain ⟨xs, hdemands, hxs⟩ := addAll_eq_ok (addAll_of_build h) m.pairwise_toList fun _ hk => nomatch hk
  have hempty : Schedule.empty.demands = [] := rfl
  rw [hdemands, hempty, List.nil_append]
  exact hxs

/-- The hosts of the scheduled demands are those of the matrix. -/
theorem map_hosts_demands (h : build m interval = .ok s) :
    s.demands.map DemandSchedule.hosts = m.series.keys := by
  rw [← m.map_hosts_toList, map_eq_of_forall₂ (build_forall₂ h) hosts_ofDemand]

/-- No two scheduled demands have the same hosts. -/
theorem hosts_nodup (h : build m interval = .ok s) : (s.demands.map DemandSchedule.hosts).Nodup :=
  map_hosts_demands h ▸ m.series.keys_nodup

/-- All steps of a scheduled demand go to its destination. -/
theorem destination_of_mem_steps (h : build m interval = .ok s) {x : DemandSchedule}
    (hx : x ∈ s.demands) {step : TrafficStep} (hstep : step ∈ x.steps) :
    step.destination = x.destination := by
  obtain ⟨d, -, hd⟩ := exists_of_mem_forall₂ (build_forall₂ h) hx
  obtain ⟨last, -, rfl⟩ := ofDemand_eq_ok hd
  exact destination_of_mem_stepsOf hstep

end

end Schedule

end BackboneLab
