/-!
# Cutting texts apart and joining them

Texts are cut at a separating character, which belongs to no part. The main statements are
`join_splitOn`, joining the parts with the separator gives the text back, and `splitOn_join`, parts
without a separator are found again.
-/

namespace BackboneLab.Text

/-- The parts of a text between the occurrences of a character. There is always one part more than
occurrences. -/
def splitOn (sep : Char) : List Char → List (List Char)
  | [] => [[]]
  | c :: cs =>
    if c = sep then [] :: splitOn sep cs
    else
      match splitOn sep cs with
      | [] => [[c]]
      | p :: ps => (c :: p) :: ps

/-- A line without the carriage return that ends it. -/
def stripReturn (line : List Char) : List Char :=
  if line.getLast? = some '\r' then line.dropLast else line

/-- The lines of a text. A line feed ends a line, with or without a carriage return before it; the
last line may lack the line feed, and there is no empty line after a final one. -/
def lines (cs : List Char) : List (List Char) :=
  let parts := splitOn '\n' cs
  parts.dropLast.map stripReturn ++ parts.getLast?.toList.filter (!·.isEmpty)

/-- A list of texts with a text between any two neighbours. -/
def join (sep : List Char) : List (List Char) → List Char
  | [] => []
  | [p] => p
  | p :: q :: ps => p ++ sep ++ join sep (q :: ps)

theorem splitOn_ne_nil (sep : Char) (cs : List Char) : splitOn sep cs ≠ [] := by
  cases cs with
  | nil => exact List.cons_ne_nil _ _
  | cons c cs =>
    rw [splitOn]
    split
    · exact List.cons_ne_nil _ _
    · split <;> exact List.cons_ne_nil _ _

/-- Joining the parts with the separator gives the text back. -/
theorem join_splitOn (sep : Char) (cs : List Char) : join [sep] (splitOn sep cs) = cs := by
  induction cs with
  | nil => rfl
  | cons c cs ih =>
    rw [splitOn]
    split
    next h =>
      cases hs : splitOn sep cs with
      | nil => exact absurd hs (splitOn_ne_nil sep cs)
      | cons p ps => rw [hs] at ih; simp [join, ih, h]
    next h =>
      cases hs : splitOn sep cs with
      | nil => exact absurd hs (splitOn_ne_nil sep cs)
      | cons p ps =>
        rw [hs] at ih
        cases ps with
        | nil => simpa [join] using ih
        | cons q qs => simpa [join] using ih

/-- A text without a separator is its only part. -/
theorem splitOn_eq_singleton {sep : Char} {cs : List Char} (h : sep ∉ cs) : splitOn sep cs = [cs] := by
  induction cs with
  | nil => rfl
  | cons c cs ih =>
    have hc : c ≠ sep := fun hc => h (hc ▸ List.mem_cons_self)
    rw [splitOn, if_neg hc, ih fun hm => h (List.mem_cons_of_mem _ hm)]

/-- Everything before the first separator is the first part. -/
theorem splitOn_append {sep : Char} {p : List Char} (h : sep ∉ p) (cs : List Char) :
    splitOn sep (p ++ sep :: cs) = p :: splitOn sep cs := by
  induction p with
  | nil => rw [List.nil_append, splitOn, if_pos rfl]
  | cons c p ih =>
    have hc : c ≠ sep := fun hc => h (hc ▸ List.mem_cons_self)
    rw [List.cons_append, splitOn, if_neg hc, ih fun hm => h (List.mem_cons_of_mem _ hm)]

/-- Parts without a separator are found again. -/
theorem splitOn_join {sep : Char} {ps : List (List Char)} (hne : ps ≠ [])
    (h : ∀ p ∈ ps, sep ∉ p) : splitOn sep (join [sep] ps) = ps := by
  induction ps with
  | nil => exact absurd rfl hne
  | cons p ps ih =>
    have hp := h p List.mem_cons_self
    cases ps with
    | nil => exact splitOn_eq_singleton hp
    | cons q qs =>
      rw [join, List.append_assoc, List.singleton_append, splitOn_append hp,
        ih (List.cons_ne_nil _ _) fun r hr => h r (List.mem_cons_of_mem _ hr)]

end BackboneLab.Text
