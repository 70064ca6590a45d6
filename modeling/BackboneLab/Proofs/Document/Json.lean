import BackboneLab.Proofs.Decimal.Numeral
import BackboneLab.Proofs.Document.Literal

/-!
# JSON documents are read back

Both ways of writing a tree differ only in the blanks between its parts, which a `Layout` gives. What is
read from a written tree is what JSON keeps of it (`Datum.inJson`), in every layout: the main statements
are `Json.read?_compact` and `Json.read?_pretty`.
-/

namespace BackboneLab

/-! ## What JSON keeps of a tree -/

/-- What JSON keeps of a text. -/
def Literal.inJson : Literal → Literal
  | .plain s => .plain s
  | .unpaired => .plain "\uFFFD"

namespace Datum

mutual

/-- What JSON keeps of a tree: values without a JSON text are missing, and all records are objects. -/
def inJson : Datum → Datum
  | .null | .nonFinite | .moment => .null
  | .bool b => .bool b
  | .number n => .number n
  | .text l => .text l.inJson
  | .list xs => .list (inJsonItems xs)
  | .record _ ms => .record .object (inJsonMembers ms)

/-- What JSON keeps of the items of a list. -/
def inJsonItems : List Datum → List Datum
  | [] => []
  | x :: xs => inJson x :: inJsonItems xs

/-- What JSON keeps of the members of a record. -/
def inJsonMembers : List (Literal × Datum) → List (Literal × Datum)
  | [] => []
  | (k, x) :: ms => (k.inJson, inJson x) :: inJsonMembers ms

end

theorem inJsonItems_eq_map (xs : List Datum) : inJsonItems xs = xs.map inJson := by
  induction xs with
  | nil => rw [inJsonItems, List.map_nil]
  | cons x xs ih => rw [inJsonItems, ih, List.map_cons]

theorem inJsonMembers_eq_map (ms : List (Literal × Datum)) :
    inJsonMembers ms = ms.map fun m => (m.1.inJson, m.2.inJson) := by
  induction ms with
  | nil => rw [inJsonMembers, List.map_nil]
  | cons m ms ih => rw [inJsonMembers, ih, List.map_cons]

/-- What holds of the parts of every list and every record holds of all trees. -/
theorem induction {P : Datum → Prop} (null : P .null) (bool : ∀ b, P (.bool b))
    (number : ∀ n, P (.number n)) (nonFinite : P .nonFinite) (text : ∀ l, P (.text l))
    (moment : P .moment) (list : ∀ xs : List Datum, (∀ x ∈ xs, P x) → P (.list xs))
    (record : ∀ style (ms : List (Literal × Datum)), (∀ m ∈ ms, P m.2) → P (.record style ms)) :
    ∀ d, P d
  | .null => null
  | .bool b => bool b
  | .number n => number n
  | .nonFinite => nonFinite
  | .text l => text l
  | .moment => moment
  | .list xs => list xs fun x _ =>
    induction null bool number nonFinite text moment list record x
  | .record style ms => record style ms fun m _ =>
    induction null bool number nonFinite text moment list record m.2
termination_by d => sizeOf d
decreasing_by
  · have := List.sizeOf_lt_of_mem ‹_›
    simp only [Datum.list.sizeOf_spec]
    omega
  · have := List.sizeOf_lt_of_mem ‹_›
    have : sizeOf m.2 < sizeOf m := by
      obtain ⟨k, x⟩ := m
      simp only [Prod.mk.sizeOf_spec]
      omega
    simp only [Datum.record.sizeOf_spec]
    omega

end Datum

namespace Json

/-! ## Layouts -/

/-- The blanks between the parts of a document. -/
structure Layout where
  /-- The blanks in front of an item at a level of nesting. -/
  line : Nat → List Char
  /-- The blanks behind the colon of a member. -/
  gap : List Char
  line_blank : ∀ level, ∀ c ∈ line level, isBlank c = true
  gap_blank : ∀ c ∈ gap, isBlank c = true

namespace Layout

/-- No blanks at all. -/
def dense : Layout where
  line _ := []
  gap := []
  line_blank _ _ h := nomatch h
  gap_blank _ h := nomatch h

/-- A line for every item. -/
def spacious : Layout where
  line := newLine
  gap := [' ']
  line_blank level c h := by
    rcases List.mem_cons.1 h with rfl | h
    · rfl
    · rw [List.eq_of_mem_replicate h]
      rfl
  gap_blank c h := by
    rw [List.mem_singleton.1 h]
    rfl

end Layout

mutual

/-- A tree in a layout, at a level of nesting. -/
def written (l : Layout) (level : Nat) : Datum → List Char
  | .null | .nonFinite | .moment => nullText
  | .bool b => boolText b
  | .number n => n.text
  | .text t => literal t
  | .list [] => ['[', ']']
  | .list (x :: xs) =>
    '[' :: (l.line (level + 1) ++ (written l (level + 1) x ++ (writtenItems l level xs ++
      (l.line level ++ [']']))))
  | .record _ [] => ['{', '}']
  | .record _ ((k, x) :: ms) =>
    '{' :: (l.line (level + 1) ++ (literal k ++ ':' :: (l.gap ++ (written l (level + 1) x ++
      (writtenMembers l level ms ++ (l.line level ++ ['}']))))))

/-- The further items of a list. -/
def writtenItems (l : Layout) (level : Nat) : List Datum → List Char
  | [] => []
  | x :: xs => ',' :: (l.line (level + 1) ++ (written l (level + 1) x ++ writtenItems l level xs))

/-- The further members of a record. -/
def writtenMembers (l : Layout) (level : Nat) : List (Literal × Datum) → List Char
  | [] => []
  | (k, x) :: ms =>
    ',' :: (l.line (level + 1) ++ (literal k ++ ':' :: (l.gap ++ (written l (level + 1) x ++
      writtenMembers l level ms))))

end

mutual

theorem compact_eq_written (level : Nat) : ∀ d, compact d = written .dense level d
  | .null | .nonFinite | .moment => by rw [compact, written]
  | .bool b => by rw [compact, written]
  | .number n => by rw [compact, written]
  | .text t => by rw [compact, written]
  | .list [] => by rw [compact, written]; rfl
  | .list (x :: xs) => by
    rw [compact, written, compact_eq_written (level + 1) x, compactItems_eq_written level xs]
    simp [Layout.dense]
  | .record _ [] => by rw [compact, written]; rfl
  | .record _ ((k, x) :: ms) => by
    rw [compact, written, compact_eq_written (level + 1) x, compactMembers_eq_written level ms]
    simp [Layout.dense]

theorem compactItems_eq_written (level : Nat) : ∀ xs, compactItems xs = writtenItems .dense level xs
  | [] => by rw [compactItems, writtenItems]
  | x :: xs => by
    rw [compactItems, writtenItems, compact_eq_written (level + 1) x, compactItems_eq_written level xs]
    simp [Layout.dense]

theorem compactMembers_eq_written (level : Nat) :
    ∀ ms, compactMembers ms = writtenMembers .dense level ms
  | [] => by rw [compactMembers, writtenMembers]
  | (k, x) :: ms => by
    rw [compactMembers, writtenMembers, compact_eq_written (level + 1) x,
      compactMembers_eq_written level ms]
    simp [Layout.dense]

end

mutual

theorem indented_eq_written (level : Nat) : ∀ d, indented level d = written .spacious level d
  | .null | .nonFinite | .moment => by rw [indented, written]
  | .bool b => by rw [indented, written]
  | .number n => by rw [indented, written]
  | .text t => by rw [indented, written]
  | .list [] => by rw [indented, written]; rfl
  | .list (x :: xs) => by
    rw [indented, written, indented_eq_written (level + 1) x, indentedItems_eq_written level xs]
    simp [Layout.spacious]
  | .record _ [] => by rw [indented, written]; rfl
  | .record _ ((k, x) :: ms) => by
    rw [indented, written, indented_eq_written (level + 1) x, indentedMembers_eq_written level ms]
    simp [Layout.spacious]

theorem indentedItems_eq_written (level : Nat) :
    ∀ xs, indentedItems level xs = writtenItems .spacious level xs
  | [] => by rw [indentedItems, writtenItems]
  | x :: xs => by
    rw [indentedItems, writtenItems, indented_eq_written (level + 1) x,
      indentedItems_eq_written level xs]
    simp [Layout.spacious]

theorem indentedMembers_eq_written (level : Nat) :
    ∀ ms, indentedMembers level ms = writtenMembers .spacious level ms
  | [] => by rw [indentedMembers, writtenMembers]
  | (k, x) :: ms => by
    rw [indentedMembers, writtenMembers, indented_eq_written (level + 1) x,
      indentedMembers_eq_written level ms]
    simp [Layout.spacious]

end

/-! ## Blanks -/

theorem skipBlanks_append {bs : List Char} (h : ∀ c ∈ bs, isBlank c = true) (cs : List Char) :
    skipBlanks (bs ++ cs) = skipBlanks cs :=
  List.dropWhile_append_of_pos h

theorem skipBlanks_cons {c : Char} (h : isBlank c = false) (cs : List Char) :
    skipBlanks (c :: cs) = c :: cs := by
  rw [skipBlanks, List.dropWhile_cons_of_neg (by simp [h])]

/-- Blanks in front of a value are of no effect. -/
theorem readValue_blanks {bs : List Char} (h : ∀ c ∈ bs, isBlank c = true) (fuel : Nat)
    (cs : List Char) : readValue fuel (bs ++ cs) = readValue fuel cs := by
  cases fuel with
  | zero => rw [readValue, readValue]
  | succ fuel => rw [readValue, skipBlanks_append h, readValue]

theorem readItems_blanks {bs : List Char} (h : ∀ c ∈ bs, isBlank c = true) (fuel : Nat)
    (cs : List Char) : readItems fuel (bs ++ cs) = readItems fuel cs := by
  cases fuel with
  | zero => rw [readItems, readItems]
  | succ fuel => rw [readItems, readValue_blanks h, readItems]

theorem readMembers_blanks {bs : List Char} (h : ∀ c ∈ bs, isBlank c = true) (fuel : Nat)
    (cs : List Char) : readMembers fuel (bs ++ cs) = readMembers fuel cs := by
  cases fuel with
  | zero => rw [readMembers, readMembers]
  | succ fuel => rw [readMembers, skipBlanks_append h, readMembers]

/-- A numeral ends before a comma and before a closing bracket or brace. -/
theorem endsBefore_cons {c : Char} (hc : c ∈ [',', ']', '}']) (cs : List Char) :
    Numeral.EndsBefore (c :: cs) := by
  intro d hd
  cases hd
  simp only [List.mem_cons, List.not_mem_nil, or_false] at hc
  rcases hc with rfl | rfl | rfl <;> decide

/-- A numeral ends before a blank. -/
theorem endsBefore_append {bs : List Char} (h : ∀ c ∈ bs, isBlank c = true) {cs : List Char}
    (hcs : Numeral.EndsBefore cs) : Numeral.EndsBefore (bs ++ cs) := by
  cases bs with
  | nil => exact hcs
  | cons b bs =>
    intro d hd
    cases hd
    have hb := h b List.mem_cons_self
    simp only [isBlank, Bool.or_eq_true, decide_eq_true_eq] at hb
    rcases hb with ((rfl | rfl) | rfl) | rfl <;> decide

/-! ## Values -/

/-- What starts with a character that no other value starts with is read as a numeral. -/
theorem readValue_other {c : Char} (hblank : isBlank c = false)
    (hc : c ∉ ['n', 't', 'f', '"', '[', '{']) (fuel : Nat) (cs : List Char) :
    readValue (fuel + 1) (c :: cs) = (Numeral.read (c :: cs)).map fun r => (.number r.1, r.2) := by
  rw [readValue, skipBlanks_cons hblank]
  split
  · next h => cases h; simp at hc
  · next h => cases h; simp at hc
  · next h => cases h; simp at hc
  · next h => cases h; simp at hc
  · next h => cases h; simp at hc
  · next h => cases h; simp at hc
  · cases Numeral.read (c :: cs) <;> rfl

theorem readValue_number (n : Numeral) {rest : List Char} (h : Numeral.EndsBefore rest) (fuel : Nat) :
    readValue (fuel + 1) (n.text ++ rest) = some (.number n, rest) := by
  have hread := Numeral.read_text n h
  obtain ⟨c, cs, hcs, hc⟩ := n.exists_head
  rw [hcs, List.cons_append] at hread ⊢
  have hdigit : ∀ d : Digit, isBlank d.char = false ∧ d.char ∉ ['n', 't', 'f', '"', '[', '{'] := by
    decide
  have hhead : isBlank c = false ∧ c ∉ ['n', 't', 'f', '"', '[', '{'] := by
    rcases hc with rfl | ⟨d, rfl⟩
    · decide
    · exact hdigit d
  rw [readValue_other hhead.1 hhead.2, hread]
  rfl

theorem literal_eq (t : Literal) : ∃ cs, literal t = '"' :: (cs.flatMap escape ++ ['"']) ∧
    t.inJson = .plain (String.ofList cs) := by
  cases t with
  | plain s => exact ⟨s.toList, rfl, by rw [Literal.inJson, String.ofList_toList]⟩
  | unpaired => exact ⟨['\uFFFD'], rfl, rfl⟩

/-- Every tree is written with at least one character, and the first is neither a blank nor a closing
bracket. -/
theorem exists_head_written (l : Layout) (level : Nat) (d : Datum) :
    ∃ c cs, written l level d = c :: cs ∧ isBlank c = false ∧ c ≠ ']' := by
  cases d with
  | null => exact ⟨'n', _, by rw [written]; rfl, rfl, by decide⟩
  | nonFinite => exact ⟨'n', _, by rw [written]; rfl, rfl, by decide⟩
  | moment => exact ⟨'n', _, by rw [written]; rfl, rfl, by decide⟩
  | bool b =>
    cases b with
    | true => exact ⟨'t', _, by rw [written]; rfl, rfl, by decide⟩
    | false => exact ⟨'f', _, by rw [written]; rfl, rfl, by decide⟩
  | number n =>
    obtain ⟨c, cs, hcs, hc⟩ := n.exists_head
    have hdigit : ∀ d : Digit, isBlank d.char = false ∧ d.char ≠ ']' := by decide
    refine ⟨c, cs, by rw [written, hcs], ?_⟩
    rcases hc with rfl | ⟨d, rfl⟩
    · decide
    · exact hdigit d
  | text t =>
    obtain ⟨cs, hcs, -⟩ := literal_eq t
    exact ⟨'"', _, by rw [written, hcs], rfl, by decide⟩
  | list xs =>
    cases xs with
    | nil => exact ⟨'[', _, by rw [written], rfl, by decide⟩
    | cons x xs => exact ⟨'[', _, by rw [written], rfl, by decide⟩
  | record style ms =>
    cases ms with
    | nil => exact ⟨'{', _, by rw [written], rfl, by decide⟩
    | cons m ms => exact ⟨'{', _, by rw [written], rfl, by decide⟩

/-- A tree is read from its text in every layout, up to what cannot belong to it. Every level of
nesting takes two steps, and its brackets are two characters. -/
def ReadsBack (d : Datum) : Prop :=
  ∀ (l : Layout) (level fuel : Nat) (rest : List Char), Numeral.EndsBefore rest →
    2 * (written l level d).length ≤ fuel →
      readValue fuel (written l level d ++ rest) = some (d.inJson, rest)

theorem readItems_written (l : Layout) (level : Nat) (rest : List Char) {x : Datum}
    {xs : List Datum} (h : ∀ y ∈ x :: xs, ReadsBack y) (fuel : Nat)
    (hfuel : 2 * ((written l (level + 1) x).length + (writtenItems l level xs).length) + 1 ≤ fuel) :
    readItems fuel (written l (level + 1) x ++ (writtenItems l level xs ++
        (l.line level ++ ']' :: rest))) = some (Datum.inJsonItems (x :: xs), rest) := by
  induction xs generalizing x fuel with
  | nil =>
    obtain ⟨fuel, rfl⟩ : ∃ k, fuel = k + 1 := ⟨fuel - 1, by omega⟩
    rw [writtenItems, List.nil_append, readItems,
      h x List.mem_cons_self l _ fuel _ (endsBefore_append (l.line_blank level) (endsBefore_cons (by simp) rest))
        (by omega)]
    simp only [bind, Option.bind_some, skipBlanks_append (l.line_blank level),
      skipBlanks_cons (c := ']') rfl, pure, Datum.inJsonItems]
  | cons y ys ih =>
    obtain ⟨fuel, rfl⟩ : ∃ k, fuel = k + 1 := ⟨fuel - 1, by omega⟩
    rw [writtenItems] at hfuel ⊢
    simp only [List.length_cons, List.length_append] at hfuel
    have hy := ih (x := y) (fun z hz => h z (List.mem_cons_of_mem _ hz)) fuel (by omega)
    rw [List.cons_append, List.append_assoc, List.append_assoc, readItems,
      h x List.mem_cons_self l _ fuel _ (endsBefore_cons (by simp) _)
        (by omega)]
    simp only [bind, Option.bind_some, skipBlanks_cons (c := ',') rfl, pure]
    rw [readItems_blanks (l.line_blank _), hy]
    simp only [Option.bind_some, Datum.inJsonItems]

/-- The first member of a record is read, and reading goes on behind its value. -/
theorem readMembers_member (l : Layout) (level : Nat) (k : Literal) {x : Datum} (h : ReadsBack x)
    {fuel : Nat} (hfuel : 2 * (written l (level + 1) x).length ≤ fuel) {rest : List Char}
    (hrest : Numeral.EndsBefore rest) :
    readMembers (fuel + 1) (literal k ++ ':' :: (l.gap ++ (written l (level + 1) x ++ rest))) =
      match skipBlanks rest with
      | ',' :: cs => do
        let (ms, cs) ← readMembers fuel cs
        return ((k.inJson, x.inJson) :: ms, cs)
      | '}' :: cs => some ([(k.inJson, x.inJson)], cs)
      | _ => none := by
  obtain ⟨cs, hliteral, hkey⟩ := literal_eq k
  rw [hliteral, List.cons_append, List.append_assoc, List.singleton_append, readMembers,
    skipBlanks_cons rfl]
  simp only [readLiteral_append, bind, Option.bind_some, skipBlanks_cons (c := ':') rfl]
  rw [readValue_blanks l.gap_blank, h l _ fuel _ hrest hfuel, Option.bind_some, hkey]
  rfl

theorem readMembers_written (l : Layout) (level : Nat) (rest : List Char) {k : Literal} {x : Datum}
    {ms : List (Literal × Datum)} (h : ∀ m ∈ (k, x) :: ms, ReadsBack m.2) (fuel : Nat)
    (hfuel : 2 * ((written l (level + 1) x).length + (writtenMembers l level ms).length) + 1 ≤ fuel) :
    readMembers fuel (literal k ++ ':' :: (l.gap ++ (written l (level + 1) x ++
        (writtenMembers l level ms ++ (l.line level ++ '}' :: rest))))) =
      some (Datum.inJsonMembers ((k, x) :: ms), rest) := by
  induction ms generalizing k x fuel with
  | nil =>
    obtain ⟨fuel, rfl⟩ : ∃ k, fuel = k + 1 := ⟨fuel - 1, by omega⟩
    have hx : ReadsBack x := h (k, x) List.mem_cons_self
    rw [writtenMembers, List.nil_append, readMembers_member l level k hx (by omega)
      (endsBefore_append (l.line_blank level) (endsBefore_cons (by simp) rest))]
    simp only [skipBlanks_append (l.line_blank level), skipBlanks_cons (c := '}') rfl,
      Datum.inJsonMembers]
  | cons m ms ih =>
    obtain ⟨k', y⟩ := m
    obtain ⟨fuel, rfl⟩ : ∃ k, fuel = k + 1 := ⟨fuel - 1, by omega⟩
    rw [writtenMembers] at hfuel ⊢
    simp only [List.length_cons, List.length_append] at hfuel
    have hy := ih (k := k') (x := y) (fun n hn => h n (List.mem_cons_of_mem _ hn)) fuel (by omega)
    have hx : ReadsBack x := h (k, x) List.mem_cons_self
    simp only [List.cons_append, List.append_assoc]
    rw [readMembers_member l level k hx (by omega) (endsBefore_cons (by simp) _)]
    simp only [bind, skipBlanks_cons (c := ',') rfl, pure]
    rw [readMembers_blanks (l.line_blank _), hy]
    simp only [Option.bind_some, Datum.inJsonMembers]

/-- Since no text is empty, there is always a first step. -/
theorem ReadsBack.of_step {d : Datum}
    (h : ∀ (l : Layout) (level fuel : Nat) (rest : List Char), Numeral.EndsBefore rest →
      2 * (written l level d).length ≤ fuel + 1 →
        readValue (fuel + 1) (written l level d ++ rest) = some (d.inJson, rest)) : ReadsBack d := by
  intro l level fuel rest hrest hfuel
  obtain ⟨c, cs, hcs, -⟩ := exists_head_written l level d
  have hlength : (written l level d).length = cs.length + 1 := by rw [hcs, List.length_cons]
  obtain ⟨fuel, rfl⟩ : ∃ k, fuel = k + 1 := ⟨fuel - 1, by omega⟩
  exact h l level fuel rest hrest hfuel

/-- Every tree is read from its text in every layout. -/
theorem readsBack (d : Datum) : ReadsBack d := by
  induction d using Datum.induction with
  | null => exact .of_step fun l level fuel rest _ _ => by rw [written, Datum.inJson]; rfl
  | nonFinite => exact .of_step fun l level fuel rest _ _ => by rw [written, Datum.inJson]; rfl
  | moment => exact .of_step fun l level fuel rest _ _ => by rw [written, Datum.inJson]; rfl
  | bool b =>
    exact .of_step fun l level fuel rest _ _ => by cases b <;> (rw [written, Datum.inJson]; rfl)
  | number n =>
    exact .of_step fun l level fuel rest hrest _ => by
      rw [written, Datum.inJson, readValue_number n hrest]
  | text t =>
    refine .of_step fun l level fuel rest _ _ => ?_
    obtain ⟨cs, hcs, ht⟩ := literal_eq t
    rw [written, Datum.inJson, hcs, ht, List.cons_append, List.append_assoc, List.singleton_append,
      readValue, skipBlanks_cons rfl]
    simp only [readLiteral_append, bind, Option.bind_some, pure]
  | list xs ih =>
    refine .of_step fun l level fuel rest _ hfuel => ?_
    cases xs with
    | nil => rw [written, Datum.inJson, Datum.inJsonItems]; rfl
    | cons x xs =>
      rw [written] at hfuel ⊢
      simp only [List.length_cons, List.length_append, List.length_nil] at hfuel
      have hitems := readItems_written l level rest ih fuel (by omega)
      obtain ⟨c, cs, hcs, hblank, hclose⟩ := exists_head_written l (level + 1) x
      simp only [List.cons_append, List.append_assoc, List.nil_append]
      rw [readValue, skipBlanks_cons rfl]
      simp only
      rw [skipBlanks_append (l.line_blank _)]
      rw [hcs, List.cons_append] at hitems ⊢
      rw [skipBlanks_cons hblank]
      split
      · next h => exact absurd (List.cons.inj h).1 hclose
      · rw [hitems, Datum.inJson]
        rfl
  | record style ms ih =>
    refine .of_step fun l level fuel rest _ hfuel => ?_
    cases ms with
    | nil => rw [written, Datum.inJson, Datum.inJsonMembers]; rfl
    | cons m ms =>
      obtain ⟨k, x⟩ := m
      rw [written] at hfuel ⊢
      simp only [List.length_cons, List.length_append, List.length_nil] at hfuel
      have hmembers := readMembers_written l level rest ih fuel (by omega)
      obtain ⟨cs, hcs, -⟩ := literal_eq k
      simp only [List.cons_append, List.append_assoc, List.nil_append]
      rw [readValue, skipBlanks_cons rfl]
      simp only
      rw [skipBlanks_append (l.line_blank _)]
      rw [hcs, List.cons_append] at hmembers ⊢
      rw [skipBlanks_cons rfl]
      split
      · next h => exact absurd (List.cons.inj h).1 (by decide)
      · rw [hmembers, Datum.inJson]
        rfl

/-- A document is read back as what JSON keeps of its tree, in every layout. -/
theorem read?_written (l : Layout) (d : Datum) : read? (written l 0 d) = some d.inJson := by
  have hread :=
    readsBack d l 0 (2 * (written l 0 d).length + 2) [] (fun _ hc => nomatch hc) (by omega)
  rw [List.append_nil] at hread
  rw [read?, hread]
  rfl

/-- A document without blanks is read back. -/
theorem read?_compact (d : Datum) : read? (compact d) = some d.inJson := by
  rw [compact_eq_written 0, read?_written]

/-- A document with a line for every item is read back. -/
theorem read?_pretty (d : Datum) : read? (pretty d) = some d.inJson := by
  rw [pretty, indented_eq_written, read?_written]

end Json

end BackboneLab
