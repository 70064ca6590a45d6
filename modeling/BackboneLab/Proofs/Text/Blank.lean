import BackboneLab.Text.Blank
import Mathlib.Data.List.Basic
import Mathlib.Data.List.TakeWhile

/-!
# Trimmed texts

Trimming takes away the blanks around a text that has none itself (`trim_append_append`), and never
anything but blanks (`mem_trim`).
-/

namespace BackboneLab.Text

/-- Blanks in front of a text that begins with none are those that are left out. -/
theorem dropWhile_blanks {front cs : List Char} (hfront : ∀ c ∈ front, isBlank c = true)
    (hcs : ∀ c ∈ cs.head?, isBlank c = false) : (front ++ cs).dropWhile isBlank = cs := by
  rw [List.dropWhile_append_of_pos hfront]
  cases cs with
  | nil => rfl
  | cons c cs => rw [List.dropWhile_cons_of_neg (by simp [hcs c rfl])]

/-- Trimming takes away the blanks around a text without blanks. -/
theorem trim_append_append {front cs back : List Char} (hfront : ∀ c ∈ front, isBlank c = true)
    (hcs : ∀ c ∈ cs, isBlank c = false) (hback : ∀ c ∈ back, isBlank c = true) :
    trim (front ++ cs ++ back) = cs := by
  have hback' : ∀ c ∈ back.reverse, isBlank c = true := fun c hc => hback c (List.mem_reverse.1 hc)
  have hcs' : ∀ c ∈ cs.reverse.head?, isBlank c = false := fun c hc =>
    hcs c (List.mem_reverse.1 (List.mem_of_head? hc))
  rw [trim]
  cases cs with
  | nil =>
    -- nothing but blanks
    have hall : ∀ c ∈ front ++ back, isBlank c = true := List.forall_mem_append.2 ⟨hfront, hback⟩
    rw [List.append_nil, List.dropWhile_eq_nil_iff.2 hall]
    rfl
  | cons c cs =>
    have hhead : ∀ x ∈ (c :: cs ++ back).head?, isBlank x = false := by
      rintro x ⟨⟩
      exact hcs c List.mem_cons_self
    rw [List.append_assoc, dropWhile_blanks hfront hhead, List.reverse_append,
      dropWhile_blanks hback' hcs', List.reverse_reverse]

/-- Every character that is no blank is still there. -/
theorem mem_dropWhile_isBlank {c : Char} {cs : List Char} (hblank : isBlank c = false) (hc : c ∈ cs) :
    c ∈ cs.dropWhile isBlank := by
  rw [← List.takeWhile_append_dropWhile (p := isBlank) (l := cs)] at hc
  refine (List.mem_append.1 hc).resolve_left fun htaken => ?_
  have := List.mem_takeWhile_imp htaken
  rw [hblank] at this
  cases this

theorem mem_trim {c : Char} {cs : List Char} (hblank : isBlank c = false) (hc : c ∈ cs) : c ∈ trim cs := by
  rw [trim, List.mem_reverse]
  refine mem_dropWhile_isBlank hblank ?_
  rw [List.mem_reverse]
  exact mem_dropWhile_isBlank hblank hc

end BackboneLab.Text
