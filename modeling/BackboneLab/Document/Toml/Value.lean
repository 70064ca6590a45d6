import BackboneLab.Document.Toml.Number

/-!
# Values of TOML

Texts, numbers, truth values, dates, lists and tables in braces. A key with points describes a table
within a table; `setMember` puts a value below such a key.
-/

namespace BackboneLab.Toml

/-- The members of a table. -/
abbrev Members := List (Literal × Datum)

/-- Puts a value below a key into the members of a table. A part before the last one names a table that
keys with points have made, or a new one. A name may be given twice; whether that matters is left to
the reader of the table. -/
def setMember : List String → Datum → Members → Option Members
  | [], _, _ => none
  | [k], d, ms => some (ms ++ [(.plain k, d)])
  | k :: ks, d, ms => go k ks d ms
where
  /-- Looks for the table of the first part among the members. -/
  go (k : String) (ks : List String) (d : Datum) : Members → Option Members
    | [] => do return [(.plain k, .record .spread (← setMember ks d []))]
    | (l, x) :: ms =>
      if l = .plain k then
        match x with
        | .record .spread inner => do return (l, .record .spread (← setMember ks d inner)) :: ms
        | _ => none
      else do return (l, x) :: (← go k ks d ms)

mutual

/-- A value and what follows it. -/
def readValue : Nat → List Char → Option (Datum × List Char)
  | 0, _ => none
  | fuel + 1, cs =>
    match cs with
    | '[' :: cs => do
      let (xs, cs) ← readItems fuel cs
      return (.list xs, cs)
    | '{' :: cs =>
      match skipBlanks cs with
      | '}' :: cs => some (.record .inlined [], cs)
      | cs => do
        let (ms, cs) ← readMembers fuel [] cs
        return (.record .inlined ms, cs)
    | '+' :: cs =>
      match readWord cs with
      | ([], _) => none
      | (word, rest) => readNumber word rest
    | cs =>
      match readWord cs with
      | ([], _) => (readText? cs).map fun t => (.text (.plain (String.ofList t.chars)), t.rest)
      | (word, rest) => readWordValue word rest

/-- The items of a list up to its closing bracket. Line ends and comments may stand between them, and a
comma after the last one. -/
def readItems : Nat → List Char → Option (List Datum × List Char)
  | 0, _ => none
  | fuel + 1, cs => do
    match ← skipLines false cs with
    | ']' :: cs => return ([], cs)
    | cs =>
      let (x, cs) ← readValue fuel cs
      match ← skipLines false cs with
      | ',' :: cs =>
        let (xs, cs) ← readItems fuel cs
        return (x :: xs, cs)
      | ']' :: cs => return ([x], cs)
      | _ => none

/-- At least one member of a table in braces, up to the closing brace. -/
def readMembers : Nat → Members → List Char → Option (Members × List Char)
  | 0, _, _ => none
  | fuel + 1, ms, cs => do
    let (ks, cs) ← readKey (cs.length + 1) cs
    match cs with
    | '=' :: cs =>
      let (x, cs) ← readValue fuel (skipBlanks cs)
      let ms ← setMember ks x ms
      match skipBlanks cs with
      | '}' :: cs => return (ms, cs)
      | ',' :: cs => readMembers fuel ms (skipBlanks cs)
      | _ => none
    | _ => none

end

end BackboneLab.Toml
