import BackboneLab.Proofs.Document.Json

/-!
# Documents that are cut off

What reads a value looks at what follows the value only to see where a numeral ends. So what is read from
a text is read from every longer text as well (`Json.readsLonger`), and a document other than a numeral
has no beginning that is a document, except for the whole of it (`Json.read?_eq_none_of_append`).

`Json.ReadsValue`, `Json.ReadsItems` and `Json.ReadsMembers` say what one step of reading does, with a
constructor for each way in which it succeeds.
-/

namespace BackboneLab

/-- A reader that reads the same from a longer text, unless it has come to the end of the shorter one. -/
def ReadsOn {α : Type} (read : List Char → Option (α × List Char)) : Prop :=
  ∀ ⦃cs rest : List Char⦄ ⦃x : α⦄, read cs = some (x, rest) → rest ≠ [] →
    ∀ more, read (cs ++ more) = some (x, rest ++ more)

/-! ## Numerals -/

namespace Numeral

theorem readDigits_append_of_ne_nil {cs rest : List Char} {ds : List Digit}
    (h : readDigits cs = (ds, rest)) (hrest : rest ≠ []) (more : List Char) :
    readDigits (cs ++ more) = (ds, rest ++ more) := by
  induction cs generalizing ds with
  | nil =>
    cases h
    exact absurd rfl hrest
  | cons c cs ih =>
    rw [readDigits] at h
    rw [List.cons_append, readDigits]
    cases hc : Digit.ofChar? c with
    | none =>
      rw [hc] at h
      cases h
      rfl
    | some d =>
      rw [hc] at h
      obtain ⟨rfl, rfl⟩ := Prod.mk.inj h
      rw [ih rfl]

theorem readsOn_readWhole : ReadsOn readWhole := by
  intro cs rest n h hrest more
  rw [readWhole] at h ⊢
  rcases hdigits : readDigits cs with ⟨_ | ⟨d, ds⟩, rest'⟩
  · rw [hdigits] at h
    cases h
  · rw [hdigits] at h
    simp only at h
    split at h
    · cases h
    next hzero =>
      cases h
      rw [readDigits_append_of_ne_nil hdigits hrest]
      exact if_neg hzero

theorem readsOn_readExponentDigits (sign : Int) : ReadsOn (readExponentDigits sign) := by
  intro cs rest n h hrest more
  rw [readExponentDigits] at h ⊢
  rcases hdigits : readDigits cs with ⟨_ | ⟨d, ds⟩, rest'⟩
  · rw [hdigits] at h
    cases h
  · rw [hdigits] at h
    cases h
    rw [readDigits_append_of_ne_nil hdigits hrest]

theorem readsOn_readFraction : ReadsOn readFraction := by
  intro cs rest ds h hrest more
  obtain _ | ⟨c, cs⟩ := cs
  · cases h
    exact absurd rfl hrest
  by_cases hc : c = '.'
  · subst hc
    rw [readFraction] at h
    rw [List.cons_append, readFraction]
    rcases hdigits : readDigits cs with ⟨_ | ⟨d, ds⟩, rest'⟩
    · rw [hdigits] at h
      cases h
    · rw [hdigits] at h
      cases h
      rw [readDigits_append_of_ne_nil hdigits hrest]
  · rw [readFraction_other hc] at h
    cases h
    exact readFraction_other hc _

/-- Without a sign behind its mark, an exponent is read from the digits behind the mark. -/
theorem readExponent_unsigned {m c : Char} (hm : m = 'e' ∨ m = 'E') (hminus : c ≠ '-') (hplus : c ≠ '+')
    (cs : List Char) : readExponent (m :: c :: cs) = readExponentDigits 1 (c :: cs) := by
  rcases hm with rfl | rfl
  all_goals
    rw [readExponent]
    · exact fun _ hcs => hminus (List.cons.inj hcs).1
    · exact fun _ hcs => hplus (List.cons.inj hcs).1

theorem readsOn_readExponent : ReadsOn readExponent := by
  intro cs rest e h hrest more
  obtain _ | ⟨m, cs⟩ := cs
  · cases h
    exact absurd rfl hrest
  by_cases hm : m = 'e' ∨ m = 'E'
  case neg =>
    rw [readExponent_other hm] at h
    cases h
    exact readExponent_other hm _
  obtain _ | ⟨c, cs⟩ := cs
  · rcases hm with rfl | rfl <;> cases h
  by_cases hminus : c = '-'
  · subst hminus
    rcases hm with rfl | rfl <;> exact readsOn_readExponentDigits _ h hrest more
  by_cases hplus : c = '+'
  · subst hplus
    rcases hm with rfl | rfl <;> exact readsOn_readExponentDigits _ h hrest more
  rw [readExponent_unsigned hm hminus hplus] at h
  exact (readExponent_unsigned hm hminus hplus _).trans
    (readsOn_readExponentDigits _ h hrest more)

/-- A sign is read from the first character. -/
theorem readSign_append_of_ne_nil {cs : List Char} (h : cs ≠ []) (more : List Char) :
    readSign (cs ++ more) = ((readSign cs).1, (readSign cs).2 ++ more) := by
  obtain ⟨c, cs, rfl⟩ := List.exists_cons_of_ne_nil h
  by_cases hc : c = '-'
  · subst hc
    rfl
  · rw [List.cons_append, readSign_other hc, readSign_other hc]
    rfl

theorem readsOn_read : ReadsOn read := by
  intro cs rest n h hrest more
  simp only [read, bind, pure, Option.bind_eq_some_iff, Option.some.injEq, Prod.mk.injEq] at h
  obtain ⟨⟨whole, cs₁⟩, hwhole, ⟨fraction, cs₂⟩, hfraction, ⟨exponent, cs₃⟩, hexponent, rfl, rfl⟩ := h
  -- nothing is left behind a part that was read from nothing
  have hcs₂ : cs₂ ≠ [] := by
    rintro rfl
    cases hexponent
    exact hrest rfl
  have hcs₁ : cs₁ ≠ [] := by
    rintro rfl
    cases hfraction
    exact hcs₂ rfl
  have hcs : cs ≠ [] := by
    rintro rfl
    cases hwhole
  rw [read, readSign_append_of_ne_nil hcs]
  simp only [bind, pure, readsOn_readWhole hwhole hcs₁ more,
    readsOn_readFraction hfraction hcs₂ more, readsOn_readExponent hexponent hrest more,
    Option.bind_some]

/-- A numeral starts with a minus sign or a digit. -/
theorem exists_head_of_read {cs rest : List Char} {n : Numeral} (h : read cs = some (n, rest)) :
    ∃ c cs', cs = c :: cs' ∧ (c = '-' ∨ Digit.ofChar? c ≠ none) := by
  obtain _ | ⟨c, cs⟩ := cs
  · cases h
  refine ⟨c, cs, rfl, ?_⟩
  by_cases hc : c = '-'
  · exact .inl hc
  refine .inr fun hdigit => ?_
  rw [read, readSign_other hc] at h
  simp only [readWhole, readDigits, hdigit] at h
  cases h

end Numeral

namespace Json

/-! ## Texts and blanks -/

/-- The pieces of a text end with its closing quote, so what follows the quote is left alone. -/
theorem readPieces_longer {cs rest : List Char} {ps : List Piece} (h : readPieces cs = some (ps, rest))
    (more : List Char) : readPieces (cs ++ more) = some (ps, rest ++ more) := by
  induction cs using readPieces.induct generalizing ps with
  | case1 => cases h
  | case2 cs =>
    cases h
    rfl
  | case3 a b c d cs ih =>
    rw [readPieces] at h
    simp only [bind, pure, Option.bind_eq_some_iff, Option.some.injEq, Prod.mk.injEq] at h
    obtain ⟨n, hn, ⟨ps', rest'⟩, hread, rfl, rfl⟩ := h
    simp only [List.cons_append]
    rw [readPieces, hn, ih hread]
    rfl
  | case4 c cs hunit ih =>
    rw [readPieces] at h
    case x_1 => exact hunit
    simp only [bind, pure, Option.bind_eq_some_iff, Option.some.injEq, Prod.mk.injEq] at h
    obtain ⟨e, he, ⟨ps', rest'⟩, hread, rfl, rfl⟩ := h
    have hc : c ≠ 'u' := by
      rintro rfl
      cases he
    rw [List.cons_append, List.cons_append, readPieces_letter hc he, ih hread]
    rfl
  | case5 c cs hquote hunit hletter hcontrol =>
    rw [readPieces, if_pos hcontrol] at h
    · cases h
    · exact hquote
    · exact hunit
    · exact hletter
  | case6 c cs hquote hunit hletter hcontrol ih =>
    -- a backslash that escapes nothing ends the text before its closing quote
    have hback : c ≠ '\\' := by
      rintro rfl
      obtain _ | ⟨c, cs⟩ := cs
      · cases h
      · exact hletter c cs rfl rfl
    rw [readPieces_plain hquote hback hcontrol, Option.map_eq_some_iff] at h
    obtain ⟨⟨ps', rest'⟩, hread, hps⟩ := h
    cases hps
    rw [List.cons_append, readPieces_plain hquote hback hcontrol, ih hread]
    rfl

theorem readLiteral_longer {cs rest : List Char} {l : Literal} (h : readLiteral cs = some (l, rest))
    (more : List Char) : readLiteral (cs ++ more) = some (l, rest ++ more) := by
  simp only [readLiteral, bind, Option.bind_eq_some_iff] at h ⊢
  obtain ⟨⟨ps, rest'⟩, hread, hjoin⟩ := h
  refine ⟨(ps, rest' ++ more), readPieces_longer hread more, ?_⟩
  cases hps : joinPieces ps with
  | none =>
    simp only [hps] at hjoin ⊢
    cases hjoin
    rfl
  | some t =>
    simp only [hps] at hjoin ⊢
    cases hjoin
    rfl

theorem skipBlanks_longer {cs : List Char} (h : skipBlanks cs ≠ []) (more : List Char) :
    skipBlanks (cs ++ more) = skipBlanks cs ++ more := by
  rw [skipBlanks] at h ⊢
  rw [List.dropWhile_append, if_neg (by simpa using h)]
  rfl

/-! ## One step -/

/-- What reads a value from a text without blanks in front, and what follows the value. Items and members
are read in so many steps. -/
inductive ReadsValue (fuel : Nat) : List Char → Datum → List Char → Prop
  | null {rest : List Char} : ReadsValue fuel ('n' :: 'u' :: 'l' :: 'l' :: rest) .null rest
  | true {rest : List Char} : ReadsValue fuel ('t' :: 'r' :: 'u' :: 'e' :: rest) (.bool true) rest
  | false {rest : List Char} :
      ReadsValue fuel ('f' :: 'a' :: 'l' :: 's' :: 'e' :: rest) (.bool false) rest
  | text {cs rest : List Char} {l : Literal} (hl : readLiteral cs = some (l, rest)) :
      ReadsValue fuel ('"' :: cs) (.text l) rest
  | emptyList {cs rest : List Char} (hclose : skipBlanks cs = ']' :: rest) :
      ReadsValue fuel ('[' :: cs) (.list []) rest
  | list {c : Char} {cs cs' rest : List Char} {xs : List Datum} (hitem : skipBlanks cs = c :: cs')
      (hc : c ≠ ']') (hxs : readItems fuel (c :: cs') = some (xs, rest)) :
      ReadsValue fuel ('[' :: cs) (.list xs) rest
  | emptyRecord {cs rest : List Char} (hclose : skipBlanks cs = '}' :: rest) :
      ReadsValue fuel ('{' :: cs) (.record .object []) rest
  | record {c : Char} {cs cs' rest : List Char} {ms : List (Literal × Datum)}
      (hmember : skipBlanks cs = c :: cs') (hc : c ≠ '}')
      (hms : readMembers fuel (c :: cs') = some (ms, rest)) :
      ReadsValue fuel ('{' :: cs) (.record .object ms) rest
  | number {c : Char} {cs rest : List Char} {n : Numeral} (hblank : isBlank c = false)
      (hc : c ∉ ['n', 't', 'f', '"', '[', '{']) (hn : Numeral.read (c :: cs) = some (n, rest)) :
      ReadsValue fuel (c :: cs) (.number n) rest

/-- The first character of a numeral starts no other value. -/
theorem not_mem_of_numeral {c : Char} (h : c = '-' ∨ Digit.ofChar? c ≠ none) :
    isBlank c = false ∧ c ∉ ['n', 't', 'f', '"', '[', '{'] := by
  rcases h with rfl | hdigit
  · decide
  refine ⟨Bool.eq_false_iff.2 fun hblank => hdigit ?_, fun hmem => hdigit ?_⟩
  · simp only [isBlank, Bool.or_eq_true, decide_eq_true_eq] at hblank
    rcases hblank with ((rfl | rfl) | rfl) | rfl <;> decide
  · simp only [List.mem_cons, List.not_mem_nil, or_false] at hmem
    rcases hmem with rfl | rfl | rfl | rfl | rfl | rfl <;> decide

theorem exists_cons_of_readItems {fuel : Nat} {cs rest : List Char} {xs : List Datum}
    (h : readItems fuel cs = some (xs, rest)) : ∃ c cs', cs = c :: cs' := by
  obtain _ | ⟨c, cs⟩ := cs
  · obtain _ | _ | fuel := fuel <;> cases h
  · exact ⟨c, cs, rfl⟩

theorem exists_cons_of_readMembers {fuel : Nat} {cs rest : List Char} {ms : List (Literal × Datum)}
    (h : readMembers fuel cs = some (ms, rest)) : ∃ c cs', cs = c :: cs' := by
  obtain _ | ⟨c, cs⟩ := cs
  · obtain _ | fuel := fuel <;> cases h
  · exact ⟨c, cs, rfl⟩

theorem readsValue_of_readValue {fuel : Nat} {cs rest : List Char} {d : Datum}
    (h : readValue (fuel + 1) cs = some (d, rest)) : ReadsValue fuel (skipBlanks cs) d rest := by
  rw [readValue] at h
  split at h
  next hcs =>
    cases h
    exact hcs ▸ .null
  next hcs =>
    cases h
    exact hcs ▸ .true
  next hcs =>
    cases h
    exact hcs ▸ .false
  next hcs =>
    obtain ⟨⟨l, rest'⟩, hl, heq⟩ := Option.bind_eq_some_iff.1 h
    cases heq
    exact hcs ▸ .text hl
  next hcs =>
    split at h
    next hclose =>
      cases h
      exact hcs ▸ .emptyList hclose
    next hclose =>
      obtain ⟨⟨xs, rest'⟩, hxs, heq⟩ := Option.bind_eq_some_iff.1 h
      cases heq
      obtain ⟨c, cs', hitem⟩ := exists_cons_of_readItems hxs
      rw [hitem] at hxs hclose
      exact hcs ▸ .list hitem (fun hc => hclose cs' (hc ▸ rfl)) hxs
  next hcs =>
    split at h
    next hclose =>
      cases h
      exact hcs ▸ .emptyRecord hclose
    next hclose =>
      obtain ⟨⟨ms, rest'⟩, hms, heq⟩ := Option.bind_eq_some_iff.1 h
      cases heq
      obtain ⟨c, cs', hmember⟩ := exists_cons_of_readMembers hms
      rw [hmember] at hms hclose
      exact hcs ▸ .record hmember (fun hc => hclose cs' (hc ▸ rfl)) hms
  next =>
    obtain ⟨⟨n, rest'⟩, hn, heq⟩ := Option.bind_eq_some_iff.1 h
    cases heq
    obtain ⟨c, cs', hstart, hhead⟩ := Numeral.exists_head_of_read hn
    obtain ⟨hblank, hc⟩ := not_mem_of_numeral hhead
    rw [hstart] at hn ⊢
    exact .number hblank hc hn

theorem ReadsValue.readValue {fuel : Nat} {cs cs' rest : List Char} {d : Datum}
    (h : ReadsValue fuel cs' d rest) (hcs : skipBlanks cs = cs') :
    readValue (fuel + 1) cs = some (d, rest) := by
  rw [Json.readValue, hcs]
  cases h with
  | null => rfl
  | true => rfl
  | false => rfl
  | text hl => simp only [hl, bind, pure, Option.bind_some]
  | emptyList hclose => simp only [hclose]
  | list hitem hc hxs =>
    simp only [hitem]
    split
    next h => exact absurd (List.cons.inj h).1 hc
    next => rw [hxs]; rfl
  | emptyRecord hclose => simp only [hclose]
  | record hmember hc hms =>
    simp only [hmember]
    split
    next h => exact absurd (List.cons.inj h).1 hc
    next => rw [hms]; rfl
  | @number c cs' _ n hblank hc hn =>
    have hread := readValue_other hblank hc fuel cs'
    rw [Json.readValue, skipBlanks_cons hblank, hn] at hread
    exact hread

/-- What reads items up to the closing bracket. -/
inductive ReadsItems (fuel : Nat) (cs : List Char) : List Datum → List Char → Prop
  | last {cs₁ rest : List Char} {x : Datum} (hx : readValue fuel cs = some (x, cs₁))
      (hclose : skipBlanks cs₁ = ']' :: rest) : ReadsItems fuel cs [x] rest
  | more {cs₁ cs₂ rest : List Char} {x : Datum} {xs : List Datum}
      (hx : readValue fuel cs = some (x, cs₁)) (hcomma : skipBlanks cs₁ = ',' :: cs₂)
      (hxs : readItems fuel cs₂ = some (xs, rest)) : ReadsItems fuel cs (x :: xs) rest

theorem readItems_iff {fuel : Nat} {cs rest : List Char} {xs : List Datum} :
    readItems (fuel + 1) cs = some (xs, rest) ↔ ReadsItems fuel cs xs rest := by
  rw [readItems]
  constructor
  · intro h
    obtain ⟨⟨x, cs₁⟩, hx, h⟩ := Option.bind_eq_some_iff.1 h
    dsimp only at h
    split at h
    next hcomma =>
      obtain ⟨⟨xs, _⟩, hxs, heq⟩ := Option.bind_eq_some_iff.1 h
      cases heq
      exact .more hx hcomma hxs
    next hclose =>
      cases h
      exact .last hx hclose
    next => cases h
  · intro h
    cases h with
    | last hx hclose => simp only [hx, bind, pure, Option.bind_some, hclose]
    | more hx hcomma hxs => simp only [hx, bind, pure, Option.bind_some, hcomma, hxs]

/-- A member is read behind the opening quote of its name. -/
def ReadsMember (fuel : Nat) (cs : List Char) (m : Literal × Datum) (rest : List Char) : Prop :=
  ∃ cs₁ cs₂, readLiteral cs = some (m.1, cs₁) ∧ skipBlanks cs₁ = ':' :: cs₂ ∧
    readValue fuel cs₂ = some (m.2, rest)

/-- What reads members up to the closing brace. -/
inductive ReadsMembers (fuel : Nat) : List Char → List (Literal × Datum) → List Char → Prop
  | last {cs cs₁ rest : List Char} {m : Literal × Datum} (hm : ReadsMember fuel cs m cs₁)
      (hclose : skipBlanks cs₁ = '}' :: rest) : ReadsMembers fuel ('"' :: cs) [m] rest
  | more {cs cs₁ cs₂ rest : List Char} {m : Literal × Datum} {ms : List (Literal × Datum)}
      (hm : ReadsMember fuel cs m cs₁) (hcomma : skipBlanks cs₁ = ',' :: cs₂)
      (hms : readMembers fuel cs₂ = some (ms, rest)) : ReadsMembers fuel ('"' :: cs) (m :: ms) rest

theorem readMembers_iff {fuel : Nat} {cs rest : List Char} {ms : List (Literal × Datum)} :
    readMembers (fuel + 1) cs = some (ms, rest) ↔ ReadsMembers fuel (skipBlanks cs) ms rest := by
  rw [readMembers]
  constructor
  · intro h
    split at h
    case h_2 => cases h
    next hcs =>
    obtain ⟨⟨k, cs₁⟩, hk, h⟩ := Option.bind_eq_some_iff.1 h
    dsimp only at h
    split at h
    case h_2 => cases h
    next hcolon =>
    obtain ⟨⟨x, cs₂⟩, hx, h⟩ := Option.bind_eq_some_iff.1 h
    have hm : ReadsMember fuel _ (k, x) cs₂ := ⟨_, _, hk, hcolon, hx⟩
    dsimp only at h
    rw [hcs]
    split at h
    next hcomma =>
      obtain ⟨⟨ms, _⟩, hms, heq⟩ := Option.bind_eq_some_iff.1 h
      cases heq
      exact .more hm hcomma hms
    next hclose =>
      cases h
      exact .last hm hclose
    next => cases h
  · generalize skipBlanks cs = cs'
    intro h
    cases h with
    | last hm hclose =>
      obtain ⟨cs₁, cs₂, hk, hcolon, hx⟩ := hm
      simp only [hk, hx, bind, pure, Option.bind_some, hcolon, hclose]
    | more hm hcomma hms =>
      obtain ⟨cs₁, cs₂, hk, hcolon, hx⟩ := hm
      simp only [hk, hx, bind, pure, Option.bind_some, hcolon, hcomma, hms]

/-! ## Longer texts and more steps -/

theorem skipBlanks_eq_cons {cs cs' : List Char} {c : Char} (h : skipBlanks cs = c :: cs')
    (more : List Char) : cs ≠ [] ∧ skipBlanks (cs ++ more) = c :: (cs' ++ more) := by
  refine ⟨?_, by rw [skipBlanks_longer (by simp [h]), h, List.cons_append]⟩
  rintro rfl
  cases h

/-- In `fuel'` steps, everything is read from longer texts that is read in `fuel` steps. A numeral that
ends with the text is left out, because it may go on. -/
structure ReadsLonger (fuel fuel' : Nat) : Prop where
  value {cs rest : List Char} {d : Datum} : readValue fuel cs = some (d, rest) →
    (rest = [] → ∀ n, d ≠ .number n) →
      ∀ more, readValue fuel' (cs ++ more) = some (d, rest ++ more)
  items {cs rest : List Char} {xs : List Datum} : readItems fuel cs = some (xs, rest) →
    ∀ more, readItems fuel' (cs ++ more) = some (xs, rest ++ more)
  members {cs rest : List Char} {ms : List (Literal × Datum)} : readMembers fuel cs = some (ms, rest) →
    ∀ more, readMembers fuel' (cs ++ more) = some (ms, rest ++ more)

section
variable {fuel fuel' : Nat} {cs rest : List Char}

theorem ReadsValue.longer {d : Datum} (h : ReadsValue fuel cs d rest)
    (hsteps : ReadsLonger fuel fuel') (hd : rest = [] → ∀ n, d ≠ .number n) (more : List Char) :
    ReadsValue fuel' (cs ++ more) d (rest ++ more) := by
  cases h with
  | null => exact .null
  | true => exact .true
  | false => exact .false
  | text hl => exact .text (readLiteral_longer hl more)
  | emptyList hclose => exact .emptyList (skipBlanks_eq_cons hclose more).2
  | list hitem hc hxs => exact .list (skipBlanks_eq_cons hitem more).2 hc (hsteps.items hxs more)
  | emptyRecord hclose => exact .emptyRecord (skipBlanks_eq_cons hclose more).2
  | record hmember hc hms =>
    exact .record (skipBlanks_eq_cons hmember more).2 hc (hsteps.members hms more)
  | number hblank hc hn =>
    have hrest : rest ≠ [] := fun hnil => hd hnil _ rfl
    exact .number hblank hc (Numeral.readsOn_read hn hrest more)

theorem ReadsItems.longer {xs : List Datum} (h : ReadsItems fuel cs xs rest)
    (hsteps : ReadsLonger fuel fuel') (more : List Char) :
    ReadsItems fuel' (cs ++ more) xs (rest ++ more) := by
  cases h with
  | last hx hclose =>
    obtain ⟨hne, hclose⟩ := skipBlanks_eq_cons hclose more
    exact .last (hsteps.value hx (fun hnil => absurd hnil hne) more) hclose
  | more hx hcomma hxs =>
    obtain ⟨hne, hcomma⟩ := skipBlanks_eq_cons hcomma more
    exact .more (hsteps.value hx (fun hnil => absurd hnil hne) more) hcomma (hsteps.items hxs more)

theorem ReadsMember.longer {m : Literal × Datum} (h : ReadsMember fuel cs m rest)
    (hsteps : ReadsLonger fuel fuel') (hrest : rest ≠ []) (more : List Char) :
    ReadsMember fuel' (cs ++ more) m (rest ++ more) := by
  obtain ⟨cs₁, cs₂, hk, hcolon, hx⟩ := h
  exact ⟨_, _, readLiteral_longer hk more, (skipBlanks_eq_cons hcolon more).2,
    hsteps.value hx (fun hnil => absurd hnil hrest) more⟩

theorem ReadsMembers.longer {ms : List (Literal × Datum)} (h : ReadsMembers fuel cs ms rest)
    (hsteps : ReadsLonger fuel fuel') (more : List Char) :
    ReadsMembers fuel' (cs ++ more) ms (rest ++ more) := by
  cases h with
  | last hm hclose =>
    obtain ⟨hne, hclose⟩ := skipBlanks_eq_cons hclose more
    exact .last (hm.longer hsteps hne more) hclose
  | more hm hcomma hms =>
    obtain ⟨hne, hcomma⟩ := skipBlanks_eq_cons hcomma more
    exact .more (hm.longer hsteps hne more) hcomma (hsteps.members hms more)

end

/-- Reading does not look behind what it reads, and more steps do not change what is read. -/
theorem readsLonger {fuel fuel' : Nat} (h : fuel ≤ fuel') : ReadsLonger fuel fuel' := by
  induction fuel generalizing fuel' with
  | zero => exact ⟨nofun, nofun, nofun⟩
  | succ fuel ih =>
    obtain ⟨fuel', rfl⟩ : ∃ k, fuel' = k + 1 := ⟨fuel' - 1, by omega⟩
    have hsteps := ih (Nat.le_of_succ_le_succ h)
    refine ⟨fun {cs rest d} hread hd more => ?_, fun hread more => ?_, fun {cs rest ms} hread more => ?_⟩
    · have hvalue := readsValue_of_readValue hread
      have hstart : skipBlanks cs ≠ [] := by
        intro hnil
        rw [hnil] at hvalue
        cases hvalue
      exact (hvalue.longer hsteps hd more).readValue (skipBlanks_longer hstart more)
    · exact readItems_iff.2 ((readItems_iff.1 hread).longer hsteps more)
    · have hmembers := readMembers_iff.1 hread
      have hstart : skipBlanks cs ≠ [] := by
        intro hnil
        rw [hnil] at hmembers
        cases hmembers
      rw [readMembers_iff, skipBlanks_longer hstart]
      exact hmembers.longer hsteps more

/-! ## Documents -/

/-- Whether a value is a numeral is seen from its first character. -/
theorem ReadsValue.eq_number {fuel fuel' : Nat} {c : Char} {cs cs' rest rest' : List Char} {n : Numeral}
    {d : Datum} (h : ReadsValue fuel (c :: cs) (.number n) rest)
    (h' : ReadsValue fuel' (c :: cs') d rest') : ∃ n', d = .number n' := by
  cases h with
  | number hblank hc hn =>
    cases h' with
    | number => exact ⟨_, rfl⟩
    | _ => simp at hc

/-- A beginning of a document of no numeral is no document, unless it is the whole document. -/
theorem read?_eq_none_of_append {l : Layout} {d : Datum} (hd : ∀ n, d.inJson ≠ .number n)
    {pre more : List Char} (h : written l 0 d = pre ++ more) (hmore : more ≠ []) : read? pre = none := by
  refine Option.eq_none_iff_forall_not_mem.2 fun d' hread => ?_
  obtain ⟨⟨d', rest⟩, hvalue, -⟩ := Option.bind_eq_some_iff.1 hread
  have hwritten : readValue (2 * (pre ++ more).length + 2) (pre ++ more) = some (d.inJson, []) := by
    have := readsBack d l 0 (2 * (pre ++ more).length + 2) [] (fun _ hc => nomatch hc) (by rw [h]; omega)
    rwa [List.append_nil, h] at this
  by_cases hnumber : rest = [] ∧ ∃ n, d' = .number n
  · obtain ⟨-, n, rfl⟩ := hnumber
    have hpre := readsValue_of_readValue hvalue
    have hwhole := readsValue_of_readValue hwritten
    obtain ⟨c, cs, hstart⟩ : ∃ c cs, skipBlanks pre = c :: cs := by
      generalize skipBlanks pre = start at hpre
      cases hpre
      exact ⟨_, _, rfl⟩
    rw [hstart] at hpre
    rw [(skipBlanks_eq_cons hstart more).2] at hwhole
    obtain ⟨n', hn'⟩ := hpre.eq_number hwhole
    exact hd n' hn'
  · have hsteps : ReadsLonger (2 * pre.length + 2) (2 * (pre ++ more).length + 2) :=
      readsLonger (by rw [List.length_append]; omega)
    have hlonger := hsteps.value hvalue (fun hrest n hn => hnumber ⟨hrest, n, hn⟩) more
    rw [hwritten] at hlonger
    have hrest : [] = rest ++ more := (Prod.mk.inj (Option.some.inj hlonger)).2
    exact hmore (List.append_eq_nil_iff.1 hrest.symm).2

end Json

end BackboneLab
