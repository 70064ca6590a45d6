import BackboneLab.Controller.Message
import BackboneLab.Proofs.Configuration.Statements
import BackboneLab.Proofs.Text.Blank
import Mathlib.Data.List.TakeDrop

/-!
# Networks of measured demands

A measured demand is cut at its first equals sign only, so that further signs are left to the reader of
networks. Whatever reader that is, if it reads nothing but addresses with the length of a prefix
(`Subnet.IsReader`), it refuses them: `networks_around_one_sign` says that a demand has its two networks
if and only if they are all that stands around the only sign, apart from blanks.
-/

namespace BackboneLab

/-! ## Readers of networks -/

/-- A number in decimal notation, with or without zeros in front. -/
def IsDigits (cs : List Char) : Prop := cs ≠ [] ∧ ∀ c ∈ cs, c.isDigit = true

/-- An address and the length of a prefix: four numbers with points between them, a slash and a number.
How large the numbers may be is left open. -/
def IsAddressWithLength (cs : List Char) : Prop :=
  ∃ p q r s l : List Char, (∀ number ∈ [p, q, r, s, l], IsDigits number) ∧
    cs = Text.join ['.'] [p, q, r, s] ++ '/' :: l

theorem isDigits_natText (n : Nat) : IsDigits (natText n) :=
  ⟨natText_ne_nil n, fun _ hc => isDigit_of_mem_natText hc⟩

/-- An address with the length of a prefix has digits, points and a slash. -/
theorem IsAddressWithLength.of_mem {cs : List Char} (h : IsAddressWithLength cs) {c : Char}
    (hc : c ∈ cs) : c.isDigit = true ∨ c = '.' ∨ c = '/' := by
  obtain ⟨p, q, r, s, l, hnumbers, rfl⟩ := h
  have hdigit : ∀ number ∈ [p, q, r, s, l], c ∈ number → c.isDigit = true := fun number hmem hc =>
    (hnumbers number hmem).2 c hc
  simp only [List.forall_mem_cons] at hdigit
  obtain ⟨hp, hq, hr, hs, hl, -⟩ := hdigit
  simp only [Text.join, List.mem_append, List.mem_cons, List.not_mem_nil, or_false] at hc
  rcases hc with ((hc | rfl) | ((hc | rfl) | ((hc | rfl) | hc))) | (rfl | hc)
  · exact .inl (hp hc)
  · exact .inr (.inl rfl)
  · exact .inl (hq hc)
  · exact .inr (.inl rfl)
  · exact .inl (hr hc)
  · exact .inr (.inl rfl)
  · exact .inl (hs hc)
  · exact .inr (.inr rfl)
  · exact .inl (hl hc)

namespace Subnet

/-- A reader of networks: it reads every network from what it is written as, and it reads nothing but
addresses with the length of a prefix. -/
structure IsReader (read? : List Char → Option Subnet) : Prop where
  written : ∀ n : Subnet, read? n.chars = some n
  shape : ∀ {cs : List Char} {n : Subnet}, read? cs = some n → IsAddressWithLength cs

theorem isAddressWithLength_chars (n : Subnet) : IsAddressWithLength n.chars := by
  refine ⟨_, _, _, _, _, ?_, rfl⟩
  simp only [List.forall_mem_cons, isDigits_natText, List.not_mem_nil, false_implies, implies_true,
    and_self]

theorem isReader_read? : IsReader Subnet.read? where
  written _ := read?_eq_some_iff.2 rfl
  shape h := read?_eq_some_iff.1 h ▸ isAddressWithLength_chars _

/-- What is read as a network, apart from the blanks around it, has no equals sign. -/
theorem IsReader.sign_not_mem {read? : List Char → Option Subnet} (h : IsReader read?) {cs : List Char}
    {n : Subnet} (hread : read? (Text.trim cs) = some n) : '=' ∉ cs := by
  intro hmem
  rcases (h.shape hread).of_mem (Text.mem_trim (by decide) hmem) with hdigit | hpoint | hslash
  · exact absurd hdigit (by decide)
  · exact absurd hpoint (by decide)
  · exact absurd hslash (by decide)

end Subnet

/-! ## Demands -/

namespace TrafficSample

variable {read? : List Char → Option Subnet} {s : TrafficSample} {a b : Subnet}

/-- A demand is read from the two sides of its first equals sign. -/
theorem networksBy?_eq_some_iff : s.networksBy? read? = some (a, b) ↔
    ∃ source destination, s.demand.toList = source ++ '=' :: destination ∧ '=' ∉ source ∧
      read? (Text.trim source) = some a ∧ read? (Text.trim destination) = some b := by
  rw [networksBy?, List.span_eq_takeWhile_dropWhile]
  constructor
  · intro h
    split at h
    next source sign destination hspan =>
      obtain ⟨hsource, hrest⟩ := Prod.mk.inj hspan
      have hsign : sign = '=' := by
        have hhead := List.head?_dropWhile_not (fun c => decide (c ≠ '=')) s.demand.toList
        rw [hrest] at hhead
        simpa using hhead
      simp only [bind, Option.bind_eq_some_iff, pure, Option.some.injEq, Prod.mk.injEq] at h
      obtain ⟨x, hx, y, hy, rfl, rfl⟩ := h
      refine ⟨source, destination, ?_, ?_, hx, hy⟩
      · rw [← List.takeWhile_append_dropWhile (p := fun c => decide (c ≠ '=')) (l := s.demand.toList),
          hsource, hrest, hsign]
      · intro hmem
        rw [← hsource] at hmem
        simpa using List.mem_takeWhile_imp hmem
    · cases h
  · rintro ⟨source, destination, hdemand, hsource, ha, hb⟩
    have hbefore : ∀ c ∈ source, decide (c ≠ '=') = true := fun c hc =>
      decide_eq_true fun heq => hsource (heq ▸ hc)
    rw [hdemand, List.takeWhile_append_of_pos hbefore, List.dropWhile_append_of_pos hbefore,
      List.takeWhile_cons_of_neg (by simp), List.dropWhile_cons_of_neg (by simp), List.append_nil]
    simp only [ha, hb, bind, Option.bind_some, pure]

/-- A demand that is read has one equals sign. -/
theorem count_sign (h : Subnet.IsReader read?) (hs : s.networksBy? read? = some (a, b)) :
    s.demand.toList.count '=' = 1 := by
  obtain ⟨source, destination, hdemand, hsource, -, hb⟩ := networksBy?_eq_some_iff.1 hs
  rw [hdemand, List.count_append, List.count_cons_self, List.count_eq_zero.2 hsource,
    List.count_eq_zero.2 (h.sign_not_mem hb)]

end TrafficSample

/-- The networks of a measured demand, for every reader of networks. Two networks with any blanks around
them and an equals sign between them are read. Conversely, a demand that is read has one equals sign with
the two networks on its sides, and one with another number of signs is not read. -/
theorem networks_around_one_sign {read? : List Char → Option Subnet} (h : Subnet.IsReader read?) :
    (∀ (s : TrafficSample) (a b : Subnet) (w₁ w₂ w₃ w₄ : List Char),
      (∀ w ∈ [w₁, w₂, w₃, w₄], ∀ c ∈ w, Text.isBlank c = true) →
      s.demand.toList = w₁ ++ a.chars ++ w₂ ++ '=' :: (w₃ ++ b.chars ++ w₄) →
        s.networksBy? read? = some (a, b)) ∧
    (∀ (s : TrafficSample) (a b : Subnet), s.networksBy? read? = some (a, b) →
      s.demand.toList.count '=' = 1 ∧
        ∃ source destination, s.demand.toList = source ++ '=' :: destination ∧
          read? (Text.trim source) = some a ∧ read? (Text.trim destination) = some b) ∧
    ∀ s : TrafficSample, s.demand.toList.count '=' ≠ 1 → s.networksBy? read? = none := by
  refine ⟨?_, ?_, ?_⟩
  · intro s a b w₁ w₂ w₃ w₄ hblank hdemand
    simp only [List.forall_mem_cons] at hblank
    obtain ⟨h₁, h₂, h₃, h₄, -⟩ := hblank
    have hread : ∀ {front back : List Char} (n : Subnet), (∀ c ∈ front, Text.isBlank c = true) →
        (∀ c ∈ back, Text.isBlank c = true) → read? (Text.trim (front ++ n.chars ++ back)) = some n := by
      intro front back n hfront hback
      rw [Text.trim_append_append hfront (fun c hc => n.isBlank_of_mem_chars hc) hback, h.written]
    exact TrafficSample.networksBy?_eq_some_iff.2
      ⟨_, _, hdemand, h.sign_not_mem (hread a h₁ h₂), hread a h₁ h₂, hread b h₃ h₄⟩
  · intro s a b hs
    obtain ⟨source, destination, hdemand, -, ha, hb⟩ := TrafficSample.networksBy?_eq_some_iff.1 hs
    exact ⟨TrafficSample.count_sign h hs, source, destination, hdemand, ha, hb⟩
  · intro s hcount
    refine Option.eq_none_iff_forall_ne_some.2 fun ⟨a, b⟩ hs => hcount ?_
    exact TrafficSample.count_sign h hs

/-- The reader of networks that is in use, for a demand with blanks, host bits and an ideographic space,
and for a demand with a second sign. -/
theorem networks_around_one_sign_blanks :
    let a : Subnet := ⟨⟨192, 168, 1, 7⟩, 24⟩
    let b : Subnet := ⟨⟨10, 1, 2, 3⟩, 8⟩
    let s : TrafficSample := ⟨0, "\t192.168.1.7/24 =\u300010.1.2.3/8\n", 0⟩
    let s' : TrafficSample := ⟨0, "192.168.1.7/24=10.1.2.3/8=", 0⟩
    s.networks? = some (a, b) ∧ s.demand.toList.count '=' = 1 ∧ s'.networks? = none := by
  intro a b s s'
  obtain ⟨hread, hone, hnone⟩ := networks_around_one_sign Subnet.isReader_read?
  have hblank : ∀ w ∈ [['\t'], [' '], ['\u3000'], ['\n']], ∀ c ∈ w, Text.isBlank c = true := by
    simp only [List.forall_mem_cons, List.not_mem_nil, false_implies, implies_true, and_true]
    decide
  have hs : s.networks? = some (a, b) :=
    hread s a b ['\t'] [' '] ['\u3000'] ['\n'] hblank (by decide +kernel)
  exact ⟨hs, (hone s a b hs).1, hnone s' (by decide +kernel)⟩

end BackboneLab
