import BackboneLab.Text.Split
import Mathlib.Data.List.Basic

/-!
# Parts and lines of longer texts

A separator parts a text whatever stands around it (`splitOn_append_cons`), and no part has one
(`not_mem_of_mem_splitOn`). The lines of a text are its parts, apart from carriage returns at their ends
and from an empty part behind the last line feed (`exists_part_of_line`).
-/

namespace BackboneLab.Text

/-! ## Parts -/

/-- A separator parts a text, whatever stands before it. -/
theorem splitOn_append_cons (sep : Char) (cs ds : List Char) :
    splitOn sep (cs ++ sep :: ds) = splitOn sep cs ++ splitOn sep ds := by
  induction cs with
  | nil => exact splitOn_append (List.not_mem_nil) ds
  | cons c cs ih =>
    rw [List.cons_append, splitOn, splitOn, ih]
    split
    · rfl
    · cases hs : splitOn sep cs with
      | nil => exact absurd hs (splitOn_ne_nil sep cs)
      | cons part parts => rfl

/-- The parts of joined texts are the parts of each of them. -/
theorem splitOn_join_eq_flatMap {sep : Char} {ps : List (List Char)} (h : ps ≠ []) :
    splitOn sep (join [sep] ps) = ps.flatMap (splitOn sep) := by
  induction ps with
  | nil => exact absurd rfl h
  | cons p ps ih =>
    cases ps with
    | nil => exact (List.flatMap_singleton ..).symm
    | cons q qs =>
      rw [join, List.append_assoc, List.singleton_append, splitOn_append_cons,
        ih (List.cons_ne_nil _ _)]
      rfl

/-- What stands before the first separator belongs to the first part. -/
theorem splitOn_append_left {sep : Char} {front : List Char} (h : sep ∉ front) (cs : List Char) :
    splitOn sep (front ++ cs) = (splitOn sep cs).modifyHead (front ++ ·) := by
  induction front with
  | nil => exact (congrFun List.modifyHead_id (splitOn sep cs)).symm
  | cons c front ih =>
    rw [List.mem_cons, not_or] at h
    rw [List.cons_append, splitOn, if_neg (Ne.symm h.1), ih h.2]
    cases hs : splitOn sep cs with
    | nil => exact absurd hs (splitOn_ne_nil sep cs)
    | cons part parts => rfl

/-- No part of a text has the separator. -/
theorem not_mem_of_mem_splitOn {sep : Char} {cs part : List Char} (h : part ∈ splitOn sep cs) :
    sep ∉ part := by
  induction cs generalizing part with
  | nil =>
    rw [splitOn, List.mem_singleton] at h
    exact h ▸ List.not_mem_nil
  | cons c cs ih =>
    rw [splitOn] at h
    split at h
    · rcases List.mem_cons.1 h with rfl | h
      · exact List.not_mem_nil
      · exact ih h
    next hc =>
      cases hs : splitOn sep cs with
      | nil => exact absurd hs (splitOn_ne_nil sep cs)
      | cons first parts =>
        rw [hs] at h ih
        rcases List.mem_cons.1 h with rfl | h
        · exact List.not_mem_cons_of_ne_of_not_mem (Ne.symm hc) (ih List.mem_cons_self)
        · exact ih (List.mem_cons_of_mem _ h)

/-- What begins a text and ends with a separator ends with the last separator at the latest. -/
theorem prefix_of_prefix_append_cons {sep : Char} {as bs cs : List Char} (hcs : sep ∉ cs)
    (h : as ++ [sep] <+: bs ++ sep :: cs) : as = bs ∨ as ++ [sep] <+: bs := by
  have hlast : bs ++ [sep] <+: bs ++ sep :: cs := ⟨cs, List.append_cons bs sep cs ▸ rfl⟩
  rcases List.prefix_or_prefix_of_prefix h hlast with hle | hge
  · rcases List.prefix_concat_iff.1 hle with heq | hle
    · exact .inl (List.append_cancel_right heq)
    · exact .inr hle
  · rcases List.prefix_concat_iff.1 hge with heq | ⟨rest, rfl⟩
    · exact .inl (List.append_cancel_right heq).symm
    · -- there would be a separator behind the last one
      rw [List.append_assoc, List.append_assoc, List.prefix_append_right_inj, List.singleton_append,
        List.prefix_cons_inj] at h
      exact absurd (h.subset (List.mem_append_right _ List.mem_cons_self)) hcs

/-! ## Lines -/

/-- Only the end of a line can be a carriage return that is left out. -/
theorem stripReturn_append {front : List Char} (h : front.getLast? ≠ some '\r') (cs : List Char) :
    stripReturn (front ++ cs) = front ++ stripReturn cs := by
  cases cs with
  | nil => simp [stripReturn, h]
  | cons c cs =>
    have hlast : (front ++ c :: cs).getLast? = (c :: cs).getLast? :=
      List.getLast?_append_of_ne_nil _ (List.cons_ne_nil _ _)
    have hrest : (front ++ c :: cs).dropLast = front ++ (c :: cs).dropLast :=
      List.dropLast_append_of_ne_nil (List.cons_ne_nil _ _)
    rw [stripReturn, stripReturn, hlast, hrest, apply_ite (front ++ ·)]

theorem stripReturn_prefix (line : List Char) : stripReturn line <+: line := by
  unfold stripReturn
  split
  · exact List.dropLast_prefix line
  · exact List.prefix_rfl

theorem eq_stripReturn_or (line : List Char) :
    line = stripReturn line ∨ line = stripReturn line ++ ['\r'] := by
  unfold stripReturn
  split
  next h => exact .inr (List.dropLast_append_getLast? _ h).symm
  · exact .inl rfl

/-- A line is the part with the same number, but for a carriage return at its end. -/
theorem exists_part_of_line {cs line : List Char} {k : Nat} (h : (lines cs)[k]? = some line) :
    ∃ part, (splitOn '\n' cs)[k]? = some part ∧ (part = line ∨ part = line ++ ['\r']) := by
  obtain hnil | ⟨init, last, hparts⟩ := List.eq_nil_or_concat (splitOn '\n' cs)
  · exact absurd hnil (splitOn_ne_nil _ _)
  rw [List.concat_eq_append] at hparts
  rw [lines, hparts, List.dropLast_concat, List.getLast?_concat, Option.toList_some] at h
  rw [hparts]
  rcases Nat.lt_or_ge k init.length with hk | hk
  · rw [List.getElem?_append_left (by simpa using hk), List.getElem?_map, Option.map_eq_some_iff] at h
    obtain ⟨part, hpart, rfl⟩ := h
    rw [List.getElem?_append_left hk]
    exact ⟨part, hpart, eq_stripReturn_or part⟩
  · rw [List.getElem?_append_right (by simpa using hk), List.length_map] at h
    rw [List.filter_cons, List.filter_nil] at h
    rw [List.getElem?_append_right hk]
    split at h
    · exact ⟨line, h, .inl rfl⟩
    · cases h

end BackboneLab.Text
