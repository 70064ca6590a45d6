import BackboneLab.Intent.Expectation
import BackboneLab.Proofs.Configuration.Statements
import Mathlib.Data.List.TakeWhile

/-!
# Announced networks

Which networks the text of a daemon's configuration announces, read line by line and word by word. A line
counts as an announcement exactly if its first word is `network` and another word follows
(`isNetworkLine_iff`), so the announcements are counted by reading them (`countNetworks_eq`). A router
announces the network of its host, and the speaker announces none.
-/

namespace BackboneLab

/-! ## The first word of a line -/

namespace Text

theorem words_nil : words [] = [] := rfl

theorem words_cons_blank {c : Char} (hc : isBlank c = true) (cs : List Char) :
    words (c :: cs) = words cs :=
  words_append hc [] cs

/-- Blanks at the front of a line belong to no word. -/
theorem words_dropWhile (cs : List Char) : words (cs.dropWhile isBlank) = words cs := by
  induction cs with
  | nil => rfl
  | cons c cs ih =>
    rw [List.dropWhile_cons]
    split
    next hc => rw [ih, words_cons_blank hc]
    · rfl

/-- What remains of a line without the blanks at its front is nothing, or begins with no blank. -/
theorem dropWhile_isBlank (cs : List Char) :
    cs.dropWhile isBlank = [] ∨ ∃ c r, cs.dropWhile isBlank = c :: r ∧ isBlank c = false := by
  have hhead := List.head?_dropWhile_not isBlank cs
  cases hdrop : cs.dropWhile isBlank with
  | nil => exact .inl rfl
  | cons c r =>
    rw [hdrop] at hhead
    exact .inr ⟨c, r, rfl, hhead⟩

/-- A line that begins with no blank begins with a word, which ends with the line or at a blank. -/
theorem exists_word {c : Char} (hc : isBlank c = false) (cs : List Char) :
    ∃ w, (c :: cs = w ∧ words (c :: cs) = [String.ofList w]) ∨
      ∃ b r, c :: cs = w ++ b :: r ∧ isBlank b = true ∧
        words (c :: cs) = String.ofList w :: words r := by
  have hsplit := List.takeWhile_append_dropWhile (p := fun x => !isBlank x) (l := c :: cs)
  have hhead := List.head?_dropWhile_not (fun x => !isBlank x) (c :: cs)
  have hword : words ((c :: cs).takeWhile fun x => !isBlank x) =
      [String.ofList ((c :: cs).takeWhile fun x => !isBlank x)] :=
    words_singleton (by simp [hc]) fun x hx => by simpa using List.mem_takeWhile_imp hx
  cases hrest : (c :: cs).dropWhile fun x => !isBlank x with
  | nil =>
    rw [hrest, List.append_nil] at hsplit
    rw [hsplit] at hword
    exact ⟨c :: cs, .inl ⟨rfl, hword⟩⟩
  | cons b r =>
    rw [hrest] at hsplit hhead
    have hb : isBlank b = true := by simpa using hhead
    refine ⟨_, .inr ⟨b, r, hsplit.symm, hb, ?_⟩⟩
    rw [← hsplit, words_append hb, hword, hsplit]
    rfl

/-- A line has no words exactly if it is blank. -/
theorem words_eq_nil_iff {cs : List Char} : words cs = [] ↔ cs.dropWhile isBlank = [] := by
  rw [← words_dropWhile]
  rcases dropWhile_isBlank cs with hnil | ⟨c, r, hcons, hc⟩
  · rw [hnil]
    exact ⟨fun _ => rfl, fun _ => rfl⟩
  · rw [hcons]
    obtain ⟨w, ⟨-, hwords⟩ | ⟨b, r', -, -, hwords⟩⟩ := exists_word hc r
    · simp [hwords]
    · simp [hwords]

/-- A line with two words or more begins, behind its blanks, with the first one and a blank. -/
theorem exists_rest_of_words {cs : List Char} {w v : String} {ws : List String}
    (h : words cs = w :: v :: ws) :
    ∃ b r, cs.dropWhile isBlank = w.toList ++ b :: r ∧ isBlank b = true ∧ words r = v :: ws := by
  rw [← words_dropWhile] at h
  rcases dropWhile_isBlank cs with hnil | ⟨c, r, hcons, hc⟩
  · rw [hnil, words_nil] at h
    cases h
  · rw [hcons] at h ⊢
    obtain ⟨first, ⟨-, hwords⟩ | ⟨b, r', hline, hb, hwords⟩⟩ := exists_word hc r
    · rw [hwords, List.cons.injEq] at h
      exact nomatch h.2
    · rw [hwords, List.cons.injEq] at h
      obtain ⟨rfl, hrest⟩ := h
      exact ⟨b, r', by rw [hline, String.toList_ofList], hb, hrest⟩

end Text

theorem afterWord?_eq_some_iff {w cs r : List Char} : afterWord? w cs = some r ↔ cs = w ++ r := by
  rw [afterWord?]
  constructor
  · intro h
    split at h
    next hprefix =>
      obtain ⟨t, rfl⟩ := List.isPrefixOf_iff_prefix.1 hprefix
      rw [List.drop_left, Option.some.injEq] at h
      rw [h]
    · cases h
  · rintro rfl
    rw [if_pos (List.isPrefixOf_iff_prefix.2 (List.prefix_append w r)), List.drop_left]

/-- A line is an announcement exactly if its first word is `network` and another word follows. -/
theorem isNetworkLine_iff (line : List Char) :
    isNetworkLine line = true ↔ ∃ v ws, Text.words line = "network" :: v :: ws := by
  have hword : Text.words "network".toList = ["network"] := by decide
  constructor
  · intro h
    unfold isNetworkLine at h
    split at h
    next c rest hafter =>
      rw [Bool.and_eq_true, bne_iff_ne, ne_eq, ← Text.words_eq_nil_iff] at h
      obtain ⟨v, ws, hrest⟩ := List.exists_cons_of_ne_nil h.2
      refine ⟨v, ws, ?_⟩
      rw [← Text.words_dropWhile, afterWord?_eq_some_iff.1 hafter, Text.words_append h.1, hword, hrest]
      rfl
    · cases h
  · rintro ⟨v, ws, h⟩
    obtain ⟨b, r, hline, hb, hrest⟩ := Text.exists_rest_of_words h
    have hmore : r.dropWhile Text.isBlank ≠ [] := fun hnil => by
      rw [Text.words_eq_nil_iff.2 hnil] at hrest
      cases hrest
    simp only [isNetworkLine, afterWord?_eq_some_iff.2 hline, hb, Bool.true_and]
    exact bne_iff_ne.2 hmore

/-! ## Announcements -/

/-- The network that the words of a line announce. -/
def networkOfWords? : List String → Option String
  | "network" :: n :: _ => some n
  | _ => none

/-- The network that a line announces. -/
def announced? (line : String) : Option String := networkOfWords? (Text.words line.toList)

/-- The networks that the text of a configuration announces, read line by line. -/
def announcedNetworks (config : String) : List String :=
  (Text.lines config.toList).filterMap fun l => networkOfWords? (Text.words l)

theorem isSome_networkOfWords?_iff {ws : List String} :
    (networkOfWords? ws).isSome = true ↔ ∃ v vs, ws = "network" :: v :: vs := by
  unfold networkOfWords?
  split
  next v vs => exact ⟨fun _ => ⟨v, vs, rfl⟩, fun _ => rfl⟩
  next hne => exact ⟨nofun, fun ⟨v, vs, h⟩ => absurd h (hne v vs)⟩

theorem isNetworkLine_eq_isSome (line : List Char) :
    isNetworkLine line = (networkOfWords? (Text.words line)).isSome := by
  rw [Bool.eq_iff_iff, isNetworkLine_iff, isSome_networkOfWords?_iff]

/-- The networks of a configuration are counted by reading its announcements. -/
theorem countNetworks_eq (config : String) : countNetworks config = (announcedNetworks config).length := by
  rw [countNetworks, announcedNetworks, List.length_filterMap_eq_countP]
  exact congrArg (List.countP · _) (funext isNetworkLine_eq_isSome)

/-- What a text announces is what its lines announce. -/
theorem announcedNetworks_textOfLines {ls : List String} (h : ∀ l ∈ ls, OneLine l) :
    announcedNetworks (textOfLines ls) = ls.filterMap announced? :=
  filterMap_textOfLines rfl h

/-- A line that begins with another word announces nothing. -/
theorem networkOfWords?_eq_none {w : String} {ws : List String} (h : w ≠ "network") :
    networkOfWords? (w :: ws) = none := by
  unfold networkOfWords?
  split
  next heq =>
    cases heq
    exact absurd rfl h
  · rfl

theorem Opens.announced?_eq_none {front w : String} {ws : List String} (hfront : Opens front (w :: ws))
    (h : w ≠ "network") (r : String) : announced? (front ++ r) = none := by
  rw [announced?, hfront.words, List.cons_append, networkOfWords?_eq_none h]

theorem announced?_neighborLine (a : Ipv4) (statement : String) :
    announced? (neighborLine a statement) = none := by
  rw [announced?, words_neighborLine, networkOfWords?_eq_none (by decide)]

theorem announced?_network (s : Subnet) : announced? ("  network " ++ s.text) = some s.text := by
  have hfront : Opens "  network " ["network"] := by decide
  rw [announced?, hfront.words, words_subnet]
  rfl

/-! What every daemon's configuration says about itself and its sessions announces nothing. -/

theorem announced?_timersLine (s : SessionSettings) : announced? (timersLine s) = none := by
  have hfront : Opens "  timers bgp " ["timers", "bgp"] := by decide
  have hline : timersLine s =
    "  timers bgp " ++ decimal32 s.keepalive ++ " " ++ decimal32 s.hold := rfl
  rw [hline, String.append_assoc, String.append_assoc]
  exact hfront.announced?_eq_none (by decide) _

theorem announced?_passwordLine (password : String) : announced? (passwordLine password) = none := by
  have hfront : Opens "password " ["password"] := by decide
  exact hfront.announced?_eq_none (by decide) password

theorem announced?_localAs (n : String) : announced? ("router bgp " ++ n) = none := by
  have hfront : Opens "router bgp " ["router", "bgp"] := by decide
  exact hfront.announced?_eq_none (by decide) n

theorem announced?_routerId (id : String) : announced? ("  bgp router-id " ++ id) = none := by
  have hfront : Opens "  bgp router-id " ["bgp", "router-id"] := by decide
  exact hfront.announced?_eq_none (by decide) id

theorem announced?_neighborLines (a : Ipv4) (n : Nat) (s : SessionSettings) :
    ∀ l ∈ neighborLines a n s, announced? l = none := by
  simp only [neighborLines, List.forall_mem_cons]
  exact ⟨announced?_neighborLine a _, announced?_neighborLine a _, announced?_neighborLine a _,
    announced?_neighborLine a _, List.forall_mem_nil _⟩

/-- A router announces the network of its host. -/
theorem announcedNetworks_routerConfig (n : NodeAddresses) {s : SessionSettings}
    (h : OneLine s.password) :
    announcedNetworks (textOfLines (routerConfig n s)) = [n.hostPrefix.text] := by
  have hmark : announced? "!" = none := by decide
  have hlog : announced? "log stdout" = none := by decide
  have hheader : Opens "! BGP configuration for " ["!", "BGP", "configuration", "for"] := by decide
  have hhost : Opens "hostname " ["hostname"] := by decide
  have hsessions := List.filterMap_eq_nil_iff.2
    (announced?_neighborLines n.peeringAddr s.baseAs.toNat s)
  rw [announcedNetworks_textOfLines (oneLine_routerConfig n h), routerConfig, List.filterMap_append,
    List.filterMap_append, hsessions, List.append_nil,
    List.filterMap_cons_none (hheader.announced?_eq_none (by decide) _), List.filterMap_cons_none hmark,
    List.filterMap_cons_none (hhost.announced?_eq_none (by decide) _),
    List.filterMap_cons_none (announced?_passwordLine _), List.filterMap_cons_none hmark,
    List.filterMap_cons_none (announced?_localAs _), List.filterMap_cons_none (announced?_routerId _),
    List.filterMap_cons_none (announced?_timersLine _),
    List.filterMap_cons_some (announced?_network _), List.filterMap_cons_none hmark,
    List.filterMap_cons_none hlog]
  rfl

theorem countNetworks_routerConfig (n : NodeAddresses) {s : SessionSettings} (h : OneLine s.password) :
    countNetworks (textOfLines (routerConfig n s)) = 1 := by
  rw [countNetworks_eq, announcedNetworks_routerConfig n h]
  rfl

/-- The speaker announces no network. -/
theorem announcedNetworks_speakerConfig (nodes : List NodeAddresses) {s : Settings}
    (h : OneLine s.bgp.password) :
    announcedNetworks (textOfLines (speakerConfig nodes s)) = [] := by
  have hsessions : ∀ l ∈ nodes.flatMap (speakerSession s.bgp), announced? l = none := by
    intro l hl
    obtain ⟨n, -, hl⟩ := List.mem_flatMap.1 hl
    rcases List.mem_cons.1 hl with rfl | hl
    · decide
    · exact announced?_neighborLines _ _ _ l hl
  rw [announcedNetworks_textOfLines (oneLine_speakerConfig nodes h)]
  refine List.filterMap_eq_nil_iff.2 ?_
  simp only [speakerConfig, List.forall_mem_append, List.forall_mem_cons]
  exact ⟨⟨⟨by decide, by decide, announced?_passwordLine _, by decide, by decide,
      announced?_localAs _, announced?_routerId _, announced?_timersLine _, List.forall_mem_nil _⟩,
      hsessions⟩,
    by decide, announced?_neighborLine _ _, announced?_neighborLine _ _, announced?_neighborLine _ _,
    by decide, by decide, List.forall_mem_nil _⟩

theorem countNetworks_speakerConfig (nodes : List NodeAddresses) {s : Settings}
    (h : OneLine s.bgp.password) : countNetworks (textOfLines (speakerConfig nodes s)) = 0 := by
  rw [countNetworks_eq, announcedNetworks_speakerConfig nodes h]
  rfl

end BackboneLab
