import BackboneLab.Text.Hex
import Mathlib.Data.Nat.Digits.Defs

/-!
# Hexadecimal texts are read back

A number is read from its hexadecimal text, in either case and with any number of digits
(`Text.readHex?_hexText`), so no two numbers share one (`Text.hexText_injective`). The text consists of
digits, as many as are asked for if they suffice (`Text.length_hexText`).
-/

namespace BackboneLab.Text

/-- The digit of either case as it stands in a text. -/
def LetterCase.written (l : LetterCase) (c : Char) : Char :=
  match l with
  | .lower => c
  | .upper => c.toUpper

theorem hexText_eq (l : LetterCase) (width n : Nat) :
    hexText l width n = List.replicate (width - (Nat.toDigits 16 n).length) '0' ++
      (Nat.toDigits 16 n).map l.written := by
  have hwritten : hexText l width n =
      List.replicate (width - ((Nat.toDigits 16 n).map l.written).length) '0' ++
        (Nat.toDigits 16 n).map l.written := rfl
  rw [hwritten, List.length_map]

theorem hexValue?_written (l : LetterCase) {d : Nat} (h : d < 16) :
    hexValue? (l.written (Nat.digitChar d)) = some d := by
  revert d
  cases l <;> decide

/-- Zeros in front of a number are of no effect. -/
theorem readHex?_zeros (k : Nat) (cs : List Char) :
    readHex? (List.replicate k '0' ++ cs) = readHex? cs := by
  induction k with
  | zero => rfl
  | succ k ih =>
    rw [List.replicate_succ, List.cons_append, readHex?, List.foldlM_cons]
    exact ih

theorem readHex?_append_singleton {cs : List Char} {n : Nat} (h : readHex? cs = some n) (c : Char) :
    readHex? (cs ++ [c]) = (hexValue? c).map (16 * n + ·) := by
  rw [readHex?] at h ⊢
  rw [List.foldlM_append, h]
  simp

/-- A number is read from its digits, by induction over what is left of it without the last one. -/
theorem readHex?_toDigits (l : LetterCase) (n : Nat) :
    readHex? ((Nat.toDigits 16 n).map l.written) = some n := by
  induction n using Nat.strongRecOn with
  | ind n ih =>
    by_cases hn : n < 16
    · rw [Nat.toDigits_of_lt_base hn]
      simp [readHex?, hexValue?_written l hn]
    · have hmod : n % 16 < 16 := Nat.mod_lt n (by omega)
      rw [Nat.toDigits_of_base_le (by omega) (by omega), List.map_append, List.map_singleton,
        readHex?_append_singleton (ih (n / 16) (by omega)), hexValue?_written l hmod, Option.map_some,
        Nat.div_add_mod]

/-- A number is read from its hexadecimal text. -/
theorem readHex?_hexText (l : LetterCase) (width n : Nat) : readHex? (hexText l width n) = some n := by
  rw [hexText_eq, readHex?_zeros, readHex?_toDigits]

theorem hexText_injective {l : LetterCase} {width m n : Nat}
    (h : hexText l width m = hexText l width n) : m = n := by
  have hread := readHex?_hexText l width m
  rw [h, readHex?_hexText] at hread
  exact (Option.some.inj hread).symm

/-- Zeros fill the text of a number that has fewer digits. -/
theorem length_hexText {l : LetterCase} {width n : Nat} (hwidth : 0 < width) (h : n < 16 ^ width) :
    (hexText l width n).length = width := by
  have hdigits : (Nat.toDigits 16 n).length ≤ width := Nat.toDigits_length 16 n width hwidth h
  rw [hexText_eq, List.length_append, List.length_replicate, List.length_map,
    Nat.sub_add_cancel hdigits]

/-- A text that is read as a number has digits only. -/
theorem isSome_hexValue?_of_mem {cs : List Char} {n : Nat} (h : readHex? cs = some n) :
    ∀ c ∈ cs, (hexValue? c).isSome := by
  have hread : ∀ (cs : List Char) (m : Nat),
      cs.foldlM (fun n c => (hexValue? c).map (16 * n + ·)) m = some n →
        ∀ c ∈ cs, (hexValue? c).isSome := by
    intro cs
    induction cs with
    | nil => exact fun _ _ _ hc => nomatch hc
    | cons d cs ih =>
      intro m hfold c hc
      rw [List.foldlM_cons] at hfold
      obtain ⟨k, hd, hrest⟩ := Option.bind_eq_some_iff.1 hfold
      obtain ⟨v, hv, -⟩ := Option.map_eq_some_iff.1 hd
      rcases List.mem_cons.1 hc with rfl | hc
      · rw [hv, Option.isSome_some]
      · exact ih k hrest c hc
  exact hread cs 0 h

end BackboneLab.Text
