import BackboneLab.Document.Json.Reader
import BackboneLab.Document.Json.Writer

/-!
# Quoted texts are read back

A text between quotes is read as the text itself, whatever characters it holds, and what follows the
closing quote is left alone. The main statement is `Json.readLiteral_append`.
-/

namespace BackboneLab.Json

/-! ## Units -/

theorem hexText_control : ∀ n < 0x20,
    (Text.hexText .lower 4 n).length = 4 ∧ Text.readHex? (Text.hexText .lower 4 n) = some n := by
  decide

/-- A unit that is no half of a surrogate pair is a character of its own, whatever follows it. -/
theorem joinPieces_unit {n : Nat} (h1 : isLeading n = false) (h2 : isTrailing n = false)
    (ps : List Piece) : joinPieces (.unit n :: ps) = (joinPieces ps).map (Char.ofNat n :: ·) := by
  cases ps with
  | nil => simp [joinPieces, h1, h2]
  | cons p ps =>
    cases p with
    | char c => simp [joinPieces, h1, h2]
    | unit m => simp [joinPieces, h1, h2]

/-! ## Characters -/

/-- A character that is not escaped is read as itself. -/
theorem readPieces_plain {c : Char} (hquote : c ≠ '"') (hback : c ≠ '\\')
    (hcontrol : ¬c.toNat < 0x20) (cs : List Char) :
    readPieces (c :: cs) = (readPieces cs).map fun r => (.char c :: r.1, r.2) := by
  rw [readPieces]
  · rw [if_neg hcontrol]
    cases readPieces cs <;> rfl
  · exact hquote
  · rintro a b d e cs rfl
    exact (hback rfl).elim
  · rintro d cs rfl
    exact (hback rfl).elim

/-- An escape letter is read as the character that it stands for. -/
theorem readPieces_letter {l c : Char} (hl : l ≠ 'u') (h : escaped? l = some c) (cs : List Char) :
    readPieces ('\\' :: l :: cs) = (readPieces cs).map fun r => (.char c :: r.1, r.2) := by
  rw [readPieces]
  · rw [h]
    cases readPieces cs <;> rfl
  · rintro a b d e cs rfl
    exact (hl rfl).elim

/-- Four hexadecimal digits are read as the unit that they stand for. -/
theorem readPieces_unit {ds : List Char} {n : Nat} (hlength : ds.length = 4)
    (h : Text.readHex? ds = some n) (cs : List Char) :
    readPieces ('\\' :: 'u' :: (ds ++ cs)) = (readPieces cs).map fun r => (.unit n :: r.1, r.2) := by
  obtain ⟨a, b, c, d, rfl⟩ : ∃ a b c d, ds = [a, b, c, d] := by
    match ds, hlength with
    | [a, b, c, d], _ => exact ⟨a, b, c, d, rfl⟩
  rw [List.cons_append, List.cons_append, List.cons_append, List.cons_append, List.nil_append,
    readPieces, h]
  cases readPieces cs <;> rfl

theorem joinPieces_char (c : Char) (ps : List Piece) :
    joinPieces (.char c :: ps) = (joinPieces ps).map (c :: ·) := by
  rw [joinPieces]

/-- A character is read from its escape as one piece, which stands for the character. -/
theorem exists_piece (c : Char) : ∃ p : Piece,
    (∀ cs, readPieces (escape c ++ cs) = (readPieces cs).map fun r => (p :: r.1, r.2)) ∧
      ∀ ps, joinPieces (p :: ps) = (joinPieces ps).map (c :: ·) := by
  have letter : ∀ l c : Char, l ≠ 'u' → escaped? l = some c → ∃ p : Piece,
      (∀ cs, readPieces (['\\', l] ++ cs) = (readPieces cs).map fun r => (p :: r.1, r.2)) ∧
        ∀ ps, joinPieces (p :: ps) = (joinPieces ps).map (c :: ·) :=
    fun l c hl h => ⟨.char c, readPieces_letter hl h, joinPieces_char c⟩
  unfold escape
  split
  next h => exact h ▸ letter '"' '"' (by decide) rfl
  next hquote =>
  split
  next h => exact h ▸ letter '\\' '\\' (by decide) rfl
  next hback =>
  split
  next h => exact h ▸ letter 'b' '\x08' (by decide) rfl
  split
  next h => exact h ▸ letter 't' '\t' (by decide) rfl
  split
  next h => exact h ▸ letter 'n' '\n' (by decide) rfl
  split
  next h => exact h ▸ letter 'f' '\x0c' (by decide) rfl
  split
  next h => exact h ▸ letter 'r' '\r' (by decide) rfl
  split
  next hcontrol =>
    obtain ⟨hlength, hread⟩ := hexText_control c.toNat hcontrol
    refine ⟨.unit c.toNat, fun cs => ?_, fun ps => ?_⟩
    · rw [List.append_assoc]
      exact readPieces_unit hlength hread cs
    · have h1 : isLeading c.toNat = false := by
        simp only [isLeading, Bool.and_eq_false_iff, decide_eq_false_iff_not]
        omega
      have h2 : isTrailing c.toNat = false := by
        simp only [isTrailing, Bool.and_eq_false_iff, decide_eq_false_iff_not]
        omega
      rw [joinPieces_unit h1 h2, Char.ofNat_toNat]
  next hcontrol => exact ⟨.char c, readPieces_plain hquote hback hcontrol, joinPieces_char c⟩

/-! ## Texts -/

/-- A text is read from its escapes up to the closing quote. -/
theorem exists_pieces (cs rest : List Char) : ∃ ps : List Piece,
    readPieces (cs.flatMap escape ++ '"' :: rest) = some (ps, rest) ∧ joinPieces ps = some cs := by
  induction cs with
  | nil => exact ⟨[], by rw [List.flatMap_nil, List.nil_append, readPieces], by rw [joinPieces]⟩
  | cons c cs ih =>
    obtain ⟨p, hread, hjoin⟩ := exists_piece c
    obtain ⟨ps, hps, hcs⟩ := ih
    refine ⟨p :: ps, ?_, ?_⟩
    · rw [List.flatMap_cons, List.append_assoc, hread, hps]
      rfl
    · rw [hjoin, hcs]
      rfl

/-- A text between quotes is read as the text itself. -/
theorem readLiteral_append (cs rest : List Char) :
    readLiteral (cs.flatMap escape ++ '"' :: rest) = some (.plain (String.ofList cs), rest) := by
  obtain ⟨ps, hps, hcs⟩ := exists_pieces cs rest
  simp only [readLiteral, hps, hcs, bind, Option.bind_some, pure]

end BackboneLab.Json
