import BackboneLab.Proofs.Configuration.Announcements
import BackboneLab.Proofs.Text.Split

/-!
# Lines that announce networks

Networks are counted by the lines that announce one, and such a line is known by its words: the first one is
`network`, and there is another one (`isNetworkLine_eq`). Where the lines end does not matter, since a
carriage return belongs to no word: the count is that of the parts between the line feeds
(`countNetworks_eq_parts`). So texts are counted one by one, and a mark in front of a line takes its
network away (`countNetworks_commentOut`). The main statement is `networks_counted_by_words`.
-/

namespace BackboneLab

/-- A line announces a network if its first word is `network` and it has a further word. -/
def IsAnnouncement (line : List Char) : Prop :=
  (Text.words line).head? = some "network" ∧ 2 ≤ (Text.words line).length

instance (line : List Char) : Decidable (IsAnnouncement line) := inferInstanceAs (Decidable (_ ∧ _))

theorem isAnnouncement_iff {line : List Char} :
    IsAnnouncement line ↔ ∃ v ws, Text.words line = "network" :: v :: ws := by
  rw [IsAnnouncement]
  match Text.words line with
  | [] => simp
  | [w] => simp
  | w :: v :: ws => simp

theorem isNetworkLine_eq (line : List Char) : isNetworkLine line = decide (IsAnnouncement line) := by
  rw [Bool.eq_iff_iff, isNetworkLine_iff, decide_eq_true_iff, isAnnouncement_iff]

/-! ## Parts of a text -/

/-- It does not count how lines end. -/
theorem countNetworks_eq_parts (config : String) :
    countNetworks config = (Text.splitOn '\n' config.toList).countP isNetworkLine := by
  rw [countNetworks_eq, announcedNetworks, Text.filterMap_lines rfl, List.length_filterMap_eq_countP]
  exact congrArg (List.countP · _) (funext fun l => (isNetworkLine_eq_isSome l).symm)

theorem countNetworks_append (a b : String) :
    countNetworks (a ++ "\n" ++ b) = countNetworks a + countNetworks b := by
  have htext : (a ++ "\n" ++ b).toList = a.toList ++ '\n' :: b.toList := by
    rw [String.toList_append, String.toList_append, List.append_assoc]
    rfl
  rw [countNetworks_eq_parts, htext, Text.splitOn_append_cons, List.countP_append,
    ← countNetworks_eq_parts, ← countNetworks_eq_parts]

/-! ## Marks -/

/-- A line with a mark behind so many of its characters. -/
def markLine (indent : Nat) (line : List Char) : List Char := line.take indent ++ '!' :: line.drop indent

/-- A text with such a mark in the line with the given number, counted from zero. -/
def commentOut (text : String) (number indent : Nat) : String :=
  String.ofList (Text.join ['\n'] ((Text.splitOn '\n' text.toList).modify number (markLine indent)))

/-- The parts of the text are the same but for the marked one. -/
theorem splitOn_commentOut (text : String) (number indent : Nat) :
    Text.splitOn '\n' (commentOut text number indent).toList =
      (Text.splitOn '\n' text.toList).modify number (markLine indent) := by
  rw [commentOut, String.toList_ofList, Text.splitOn_join]
  · rw [ne_eq, List.modify_eq_nil_iff]
    exact Text.splitOn_ne_nil _ _
  · intro part hpart
    obtain ⟨k, hk⟩ := List.mem_iff_getElem?.1 hpart
    rw [List.getElem?_modify, Option.map_eq_map, Option.map_eq_some_iff] at hk
    obtain ⟨line, hline, rfl⟩ := hk
    have hfeed := Text.not_mem_of_mem_splitOn (List.mem_of_getElem? hline)
    split
    · rw [markLine, List.mem_append, List.mem_cons, not_or, not_or]
      exact ⟨fun h => hfeed (List.mem_of_mem_take h), by decide, fun h => hfeed (List.mem_of_mem_drop h)⟩
    · exact hfeed

/-- A marked line announces nothing, as its first word begins with the mark. -/
theorem isNetworkLine_markLine {indent : Nat} {line : List Char}
    (h : ∀ c ∈ line.take indent, Text.isBlank c = true) : isNetworkLine (markLine indent line) = false := by
  have hfront : (markLine indent line).dropWhile Text.isBlank = '!' :: line.drop indent := by
    rw [markLine, List.dropWhile_append_of_pos h]
    rfl
  rw [isNetworkLine, hfront]
  rfl

/-- A carriage return at the end of a line is a blank and belongs to no word. -/
theorem line_of_part {line part : List Char} (h : part = line ∨ part = line ++ ['\r']) {indent : Nat}
    (hblank : ∀ c ∈ line.take indent, Text.isBlank c = true) :
    (∀ c ∈ part.take indent, Text.isBlank c = true) ∧ isNetworkLine part = decide (IsAnnouncement line) := by
  rcases h with rfl | rfl
  · exact ⟨hblank, isNetworkLine_eq part⟩
  · constructor
    · intro c hc
      rw [List.take_append, List.mem_append] at hc
      rcases hc with hc | hc
      · exact hblank c hc
      · rw [List.mem_singleton.1 (List.mem_of_mem_take hc)]
        rfl
    · have hwords : Text.words (line ++ ['\r']) = Text.words line :=
        (Text.words_append rfl line []).trans (List.append_nil _)
      rw [isNetworkLine_eq, decide_eq_decide, IsAnnouncement, hwords, IsAnnouncement]

/-- A mark in front of a line takes its network away, if it announces one. -/
theorem countNetworks_commentOut {text : String} {number indent : Nat} {line : List Char}
    (hline : (Text.lines text.toList)[number]? = some line)
    (hblank : ∀ c ∈ line.take indent, Text.isBlank c = true) :
    countNetworks text =
      countNetworks (commentOut text number indent) + if IsAnnouncement line then 1 else 0 := by
  obtain ⟨part, hpart, hends⟩ := Text.exists_part_of_line hline
  obtain ⟨hindent, hcounted⟩ := line_of_part hends hblank
  obtain ⟨hnumber, rfl⟩ := List.getElem?_eq_some_iff.1 hpart
  obtain ⟨before, part, after, hparts, rfl, hmodify⟩ := List.exists_of_modify (markLine indent) hnumber
  simp only [hparts, List.getElem_append_right (Nat.le_refl _), Nat.sub_self, List.getElem_cons_zero]
    at hindent hcounted
  rw [countNetworks_eq_parts, countNetworks_eq_parts, splitOn_commentOut, hmodify, hparts,
    List.countP_append, List.countP_append, List.countP_cons, List.countP_cons, hcounted,
    isNetworkLine_markLine hindent]
  simp only [decide_eq_true_eq, Bool.false_eq_true, if_false, Nat.add_zero, Nat.add_assoc]

/-- Networks are counted by words: as many as there are lines whose first word is `network` and which have a
further word. So the count of two texts with a line feed between them is that of both together, and a mark
in front of any line, behind any of the blanks with which it begins, lowers the count by one if the line
was counted, and else leaves it alone. -/
theorem networks_counted_by_words :
    (∀ text, countNetworks text = (Text.lines text.toList).countP fun line => IsAnnouncement line) ∧
    (∀ a b, countNetworks (a ++ "\n" ++ b) = countNetworks a + countNetworks b) ∧
    ∀ text number indent line, (Text.lines text.toList)[number]? = some line →
      (∀ c ∈ line.take indent, Text.isBlank c = true) →
      (IsAnnouncement line → countNetworks text = countNetworks (commentOut text number indent) + 1) ∧
      (¬ IsAnnouncement line → countNetworks text = countNetworks (commentOut text number indent)) := by
  refine ⟨fun text => ?_, countNetworks_append, fun text number indent line hline hblank => ?_⟩
  · rw [countNetworks]
    exact congrArg (List.countP · _) (funext isNetworkLine_eq)
  · have hmarked := countNetworks_commentOut hline hblank
    constructor
    · intro h
      rwa [if_pos h] at hmarked
    · intro h
      rwa [if_neg h, Nat.add_zero] at hmarked

/-- Two of three lines announce a network, until the first of them is marked behind its blanks. A mark in
the line between them takes nothing away. -/
theorem networks_counted_by_words_marked :
    let text := "  network 10.0.0.0/8\r\n\tnetwork\nnetwork 10.1.0.0/16"
    commentOut text 0 2 = "  !network 10.0.0.0/8\r\n\tnetwork\nnetwork 10.1.0.0/16" ∧
      countNetworks text = 2 ∧ countNetworks (commentOut text 0 2) = 1 ∧
      countNetworks (commentOut text 1 1) = 2 := by
  intro text
  obtain ⟨hcount, -, hmark⟩ := networks_counted_by_words
  have htwo : countNetworks text = 2 := by
    rw [hcount]
    decide +kernel
  have hcounted := (hmark text 0 2 "  network 10.0.0.0/8".toList (by decide +kernel)
    (List.all_eq_true.1 (by decide +kernel))).1 (by decide +kernel)
  have hother := (hmark text 1 1 "\tnetwork".toList (by decide +kernel)
    (List.all_eq_true.1 (by decide +kernel))).2 (by decide +kernel)
  exact ⟨by decide +kernel, htwo, Nat.succ.inj (hcounted.symm.trans htwo), hother.symm.trans htwo⟩

end BackboneLab
