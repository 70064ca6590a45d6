import BackboneLab.Decimal.Numeral

/-!
# Written numerals are read back

The main statement is `Numeral.read_text`: a numeral is read off the front of its own text, as long as
what follows the text cannot belong to it (`Numeral.EndsBefore`).
-/

namespace BackboneLab.Numeral

/-! ## Digits -/

theorem ofChar?_char (d : Digit) : Digit.ofChar? d.char = some d := by
  revert d
  decide

theorem char_ne_minus (d : Digit) : d.char ≠ '-' := by
  revert d
  decide

/-- What follows does not go on with a digit. -/
def NoDigit (rest : List Char) : Prop := ∀ c ∈ rest.head?, Digit.ofChar? c = none

/-- Digits are read up to the first character that is none. -/
theorem readDigits_append (ds : List Digit) {rest : List Char} (h : NoDigit rest) :
    readDigits (ds.map Digit.char ++ rest) = (ds, rest) := by
  induction ds with
  | nil =>
    cases rest with
    | nil => rfl
    | cons c rest =>
      rw [List.map_nil, List.nil_append, readDigits, h c rfl]
  | cons d ds ih => rw [List.map_cons, List.cons_append, readDigits, ofChar?_char, ih]

theorem ofDigits_append_singleton (ds : List Digit) (d : Digit) :
    ofDigits (ds ++ [d]) = 10 * ofDigits ds + d.val := by
  rw [ofDigits, List.foldl_append]
  rfl

/-- The decimal text of a number has at least one digit, and a leading zero only if that is all. -/
theorem exists_digits (n : Nat) : ∃ (d : Digit) (ds : List Digit),
    Nat.toDigits 10 n = (d :: ds).map Digit.char ∧ ofDigits (d :: ds) = n ∧
      (d = 0 → ds = [] ∧ n = 0) := by
  induction n using Nat.strongRecOn with
  | ind n ih =>
    by_cases hn : n < 10
    · refine ⟨⟨n, hn⟩, [], ?_, ?_, fun hd => ⟨rfl, congrArg Fin.val hd⟩⟩
      · rw [Nat.toDigits_of_lt_base hn]
        rfl
      · simp [ofDigits]
    · obtain ⟨d, ds, hdigits, hvalue, hzero⟩ := ih (n / 10) (by omega)
      have hlast : n % 10 < 10 := Nat.mod_lt _ (by decide)
      refine ⟨d, ds ++ [⟨n % 10, hlast⟩], ?_, ?_, fun hd => ?_⟩
      · rw [Nat.toDigits_of_base_le (by decide) (by omega), hdigits, ← List.cons_append,
          List.map_append]
        rfl
      · rw [← List.cons_append, ofDigits_append_singleton, hvalue]
        simp only
        omega
      · have := (hzero hd).2
        omega

theorem readWhole_append (n : Nat) {rest : List Char} (h : NoDigit rest) :
    readWhole (Nat.toDigits 10 n ++ rest) = some (n, rest) := by
  obtain ⟨d, ds, hdigits, hvalue, hzero⟩ := exists_digits n
  rw [hdigits, readWhole, readDigits_append _ h]
  simp only [hvalue]
  rw [if_neg]
  rintro ⟨hd, hds⟩
  exact hds (hzero hd).1

/-! ## The parts of a numeral -/

/-- What follows can be no further part of a numeral. -/
def EndsBefore (rest : List Char) : Prop :=
  ∀ c ∈ rest.head?, Digit.ofChar? c = none ∧ c ≠ '.' ∧ c ≠ 'e' ∧ c ≠ 'E'

theorem EndsBefore.noDigit {rest : List Char} (h : EndsBefore rest) : NoDigit rest :=
  fun c hc => (h c hc).1

theorem readExponentDigits_append (sign : Int) (n : Nat) {rest : List Char} (h : NoDigit rest) :
    readExponentDigits sign (Nat.toDigits 10 n ++ rest) = some (some (sign * n), rest) := by
  obtain ⟨d, ds, hdigits, hvalue, -⟩ := exists_digits n
  rw [hdigits, readExponentDigits, readDigits_append _ h]
  simp only [hvalue]

theorem readExponent_other {c : Char} (h : ¬(c = 'e' ∨ c = 'E')) (cs : List Char) :
    readExponent (c :: cs) = some (none, c :: cs) := by
  rw [readExponent]
  all_goals rintro _ hcs
  all_goals cases hcs
  all_goals simp at h

theorem readExponent_append (e : Option Int) {rest : List Char} (h : EndsBefore rest) :
    readExponent (e.elim [] exponentText ++ rest) = some (e, rest) := by
  cases e with
  | none =>
    cases rest with
    | nil => rfl
    | cons c rest => exact readExponent_other (not_or.2 (h c rfl).2.2) rest
  | some e =>
    rw [Option.elim_some, exponentText]
    by_cases he : e < 0
    · rw [if_pos he, List.cons_append, List.cons_append, readExponent,
        readExponentDigits_append _ _ h.noDigit]
      have : -1 * (e.natAbs : Int) = e := by omega
      rw [this]
    · rw [if_neg he, List.cons_append, List.cons_append, readExponent,
        readExponentDigits_append _ _ h.noDigit]
      have : 1 * (e.natAbs : Int) = e := by omega
      rw [this]

theorem readFraction_other {c : Char} (h : c ≠ '.') (cs : List Char) :
    readFraction (c :: cs) = some ([], c :: cs) := by
  rw [readFraction]
  exact fun _ hcs => h (List.cons.inj hcs).1

theorem readFraction_append (ds : List Digit) {rest : List Char} (hdigit : NoDigit rest)
    (hpoint : ∀ c ∈ rest.head?, c ≠ '.') :
    readFraction ((if ds = [] then [] else '.' :: ds.map Digit.char) ++ rest) = some (ds, rest) := by
  cases ds with
  | nil =>
    rw [if_pos rfl, List.nil_append]
    cases rest with
    | nil => rfl
    | cons c rest => exact readFraction_other (hpoint c rfl) rest
  | cons d ds =>
    rw [if_neg (List.cons_ne_nil d ds), List.cons_append, readFraction, readDigits_append _ hdigit]

theorem readSign_other {c : Char} (h : c ≠ '-') (cs : List Char) :
    readSign (c :: cs) = (false, c :: cs) := by
  rw [readSign]
  exact fun _ hcs => h (List.cons.inj hcs).1

theorem readSign_append (negative : Bool) {rest : List Char} (h : ∀ c ∈ rest.head?, c ≠ '-') :
    readSign ((if negative then ['-'] else []) ++ rest) = (negative, rest) := by
  cases negative with
  | true => rfl
  | false =>
    rw [if_neg Bool.false_ne_true, List.nil_append]
    cases rest with
    | nil => rfl
    | cons c rest => exact readSign_other (h c rfl) rest

/-! ## Whole numerals -/

/-- The exponent of a numeral starts with no digit and no point. -/
theorem head?_exponent (e : Option Int) {rest : List Char} (h : EndsBefore rest) :
    ∀ c ∈ (e.elim [] exponentText ++ rest).head?, Digit.ofChar? c = none ∧ c ≠ '.' := by
  cases e with
  | none => exact fun c hc => ⟨(h c hc).1, (h c hc).2.1⟩
  | some e =>
    intro c hc
    cases hc
    decide

/-- The digits after the point start with the point, so that no digit of the whole part is among them. -/
theorem head?_fraction (ds : List Digit) {rest : List Char} (h : NoDigit rest) :
    NoDigit ((if ds = [] then [] else '.' :: ds.map Digit.char) ++ rest) := by
  cases ds with
  | nil => exact h
  | cons d ds =>
    intro c hc
    cases hc
    decide

/-- The text of a numeral starts with a minus sign or a digit. -/
theorem exists_head (n : Numeral) :
    ∃ c cs, n.text = c :: cs ∧ (c = '-' ∨ ∃ d : Digit, c = d.char) := by
  cases hn : n.negative with
  | true => exact ⟨'-', _, by rw [text, hn]; rfl, .inl rfl⟩
  | false =>
    obtain ⟨d, ds, hdigits, -, -⟩ := exists_digits n.whole
    exact ⟨d.char, _, by rw [text, hn, hdigits]; rfl, .inr ⟨d, rfl⟩⟩

/-- A numeral is read from its own text, up to what cannot belong to it. -/
theorem read_text (n : Numeral) {rest : List Char} (h : EndsBefore rest) :
    read (n.text ++ rest) = some (n, rest) := by
  have hexp := head?_exponent n.exponent h
  have hfraction := head?_fraction n.fraction fun c hc => (hexp c hc).1
  have hwhole : ∀ c ∈ (Nat.toDigits 10 n.whole ++ ((if n.fraction = [] then [] else
      '.' :: n.fraction.map Digit.char) ++ (n.exponent.elim [] exponentText ++ rest))).head?,
      c ≠ '-' := by
    obtain ⟨d, ds, hdigits, -, -⟩ := exists_digits n.whole
    rw [hdigits]
    rintro c hc rfl
    exact char_ne_minus d (Option.some.inj hc)
  rw [text, List.append_assoc, List.append_assoc, List.append_assoc, read, readSign_append _ hwhole]
  simp only [readWhole_append _ hfraction, readFraction_append _ (fun c hc => (hexp c hc).1)
    (fun c hc => (hexp c hc).2), readExponent_append _ h, bind, Option.bind_some, pure]

end BackboneLab.Numeral
