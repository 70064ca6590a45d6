import BackboneLab.Configuration.Session
import BackboneLab.Text.Blank
import Mathlib.Data.List.Basic

/-!
# Statements of a daemon's configuration

What the text of a daemon's configuration says about sessions, read line by line and word by word. A
text that was put together from lines without line feeds is read as these lines
(`filterMap_textOfLines`), and a line is read as the words that it was put together from
(`words_between`, `Opens.words`).
-/

namespace BackboneLab

namespace Text

/-! ## Words and lines -/

/-- The words of a line. -/
def words (line : List Char) : List String :=
  ((line.splitOnP isBlank).filter (!·.isEmpty)).map String.ofList

/-- A blank belongs to no word. -/
theorem words_append {c : Char} (hc : isBlank c = true) (cs ds : List Char) :
    words (cs ++ c :: ds) = words cs ++ words ds := by
  rw [words, List.splitOnP_append_cons cs ds hc, List.filter_append, List.map_append, words, words]

/-- A text without blanks is one word. -/
theorem words_singleton {w : List Char} (hne : w ≠ []) (h : ∀ c ∈ w, isBlank c = false) :
    words w = [String.ofList w] := by
  have : w.isEmpty = false := by simpa using hne
  rw [words, List.splitOnP_eq_singleton h, List.filter_cons_of_pos (by simp [this]), List.filter_nil,
    List.map_singleton]

/-- A carriage return at the end of a line belongs to no word. -/
theorem words_stripReturn (line : List Char) : words (stripReturn line) = words line := by
  unfold stripReturn
  split
  next h =>
    have hline : line = line.dropLast ++ '\r' :: [] := (List.dropLast_append_getLast? _ h).symm
    conv => rhs; rw [hline, words_append (by decide)]
    exact (List.append_nil _).symm
  · rfl

/-- What is collected from the words of the lines of a text is collected from the parts between its
line feeds, if nothing is collected from an empty part. -/
theorem filterMap_lines {α : Type} {f : List String → Option α} (h : f [] = none) (cs : List Char) :
    (lines cs).filterMap (fun l => f (words l)) =
      (splitOn '\n' cs).filterMap fun l => f (words l) := by
  have hlast : ∀ l : List Char, ([l].filter (!·.isEmpty)).filterMap (fun l => f (words l)) =
      [l].filterMap fun l => f (words l) := by
    intro l
    cases l with
    | nil =>
      have hwords : words [] = [] := rfl
      simp [hwords, h]
    | cons c cs => rfl
  obtain hnil | ⟨init, last, hparts⟩ := List.eq_nil_or_concat (splitOn '\n' cs)
  · exact absurd hnil (splitOn_ne_nil _ _)
  rw [lines, hparts, List.concat_eq_append, List.dropLast_concat, List.getLast?_concat,
    List.filterMap_append, List.filterMap_append, List.filterMap_map, Option.toList_some, hlast]
  simp only [Function.comp_def, words_stripReturn]

end Text

/-- A text without a line feed, which stays one line. -/
def OneLine (l : String) : Prop := '\n' ∉ l.toList

instance (l : String) : Decidable (OneLine l) := inferInstanceAs (Decidable ('\n' ∉ l.toList))

theorem OneLine.append {l r : String} (hl : OneLine l) (hr : OneLine r) : OneLine (l ++ r) := by
  rw [OneLine, String.toList_append, List.mem_append, not_or]
  exact ⟨hl, hr⟩

/-- What is collected from the words of the lines of a text is collected from the lines that it was put
together from. -/
theorem filterMap_textOfLines {α : Type} {f : List String → Option α} (h : f [] = none)
    {ls : List String} (hls : ∀ l ∈ ls, OneLine l) :
    (Text.lines (textOfLines ls).toList).filterMap (fun l => f (Text.words l)) =
      ls.filterMap fun l => f (Text.words l.toList) := by
  rw [Text.filterMap_lines h, textOfLines, String.toList_ofList]
  cases ls with
  | nil =>
    have hwords : Text.words [] = [] := rfl
    simp [Text.join, Text.splitOn, hwords, h]
  | cons l ls =>
    rw [Text.splitOn_join (by simp) fun p hp => ?_, List.filterMap_map]
    · rfl
    · obtain ⟨l, hl, rfl⟩ := List.mem_map.1 hp
      exact hls l hl

/-! ## Statements -/

/-- What a line of a daemon's configuration says about its sessions. -/
inductive SessionStatement
  /-- The number of the daemon's autonomous system. -/
  | localAs (number : Nat)
  | routerId (id : Ipv4)
  /-- The timers of all sessions, in seconds. -/
  | timers (keepalive hold : Nat)
  /-- A neighbor, and the number of its autonomous system. -/
  | remoteAs (neighbor : Ipv4) (number : Nat)
  | connectTimer (neighbor : Ipv4) (seconds : Nat)
  | advertisementInterval (neighbor : Ipv4) (seconds : Nat)
deriving DecidableEq

/-- The statement that the words of a line make, if they make one about sessions. -/
def SessionStatement.ofWords? : List String → Option SessionStatement
  | ["router", "bgp", n] => do return .localAs (← readNat? n.toList)
  | ["bgp", "router-id", a] => do return .routerId (← Ipv4.read? a.toList)
  | ["timers", "bgp", k, h] => do return .timers (← readNat? k.toList) (← readNat? h.toList)
  | ["neighbor", a, "remote-as", n] => do
    return .remoteAs (← Ipv4.read? a.toList) (← readNat? n.toList)
  | ["neighbor", a, "timers", "connect", n] => do
    return .connectTimer (← Ipv4.read? a.toList) (← readNat? n.toList)
  | ["neighbor", a, "advertisement-interval", n] => do
    return .advertisementInterval (← Ipv4.read? a.toList) (← readNat? n.toList)
  | _ => none

/-- The statement that a line makes about sessions. -/
def statement? (line : String) : Option SessionStatement :=
  SessionStatement.ofWords? (Text.words line.toList)

/-! ## Written words -/

/-- A digit is not blank. -/
theorem isBlank_of_isDigit {c : Char} (h : c.isDigit = true) : Text.isBlank c = false := by
  have hdigit : 48 ≤ c.toNat ∧ c.toNat ≤ 57 := by
    simpa [Char.isDigit, UInt32.le_iff_toNat_le] using h
  simp only [Text.isBlank, Text.blankRanges, List.any_cons, List.any_nil, Bool.or_eq_false_iff,
    Bool.and_eq_false_iff, decide_eq_false_iff_not, and_true]
  omega

/-- A number is one word. -/
theorem words_decimal (n : Nat) : Text.words (decimal n).toList = [decimal n] := by
  rw [decimal, String.toList_ofList, Text.words_singleton (natText_ne_nil n) fun c hc =>
    isBlank_of_isDigit (isDigit_of_mem_natText hc)]

theorem Ipv4.isBlank_of_mem_chars (a : Ipv4) {c : Char} (hc : c ∈ a.chars) :
    Text.isBlank c = false := by
  have hdigit : ∀ n, c ∈ natText n → Text.isBlank c = false := fun n hn =>
    isBlank_of_isDigit (isDigit_of_mem_natText hn)
  simp only [Ipv4.chars, Text.join, List.mem_append, List.mem_singleton] at hc
  rcases hc with (h | rfl) | ((h | rfl) | ((h | rfl) | h))
  · exact hdigit _ h
  · rfl
  · exact hdigit _ h
  · rfl
  · exact hdigit _ h
  · rfl
  · exact hdigit _ h

/-- An address is one word. -/
theorem words_address (a : Ipv4) : Text.words a.text.toList = [a.text] := by
  rw [Ipv4.text, String.toList_ofList, Text.words_singleton]
  · exact fun h => natText_ne_nil _ (List.append_eq_nil_iff.1 (List.append_eq_nil_iff.1 h).1).1
  · exact fun c hc => a.isBlank_of_mem_chars hc

theorem Subnet.isBlank_of_mem_chars (s : Subnet) {c : Char} (hc : c ∈ s.chars) :
    Text.isBlank c = false := by
  rcases List.mem_append.1 hc with hc | hc
  · exact s.address.isBlank_of_mem_chars hc
  · rcases List.mem_cons.1 hc with rfl | hc
    · rfl
    · exact isBlank_of_isDigit (isDigit_of_mem_natText hc)

/-- A subnet is one word. -/
theorem words_subnet (s : Subnet) : Text.words s.text.toList = [s.text] := by
  rw [Subnet.text, String.toList_ofList, Text.words_singleton]
  · exact List.append_ne_nil_of_right_ne_nil _ (List.cons_ne_nil _ _)
  · exact fun c hc => s.isBlank_of_mem_chars hc

theorem oneLine_decimal (n : Nat) : OneLine (decimal n) := by
  rw [OneLine, decimal, String.toList_ofList]
  exact Ipv4.not_mem_natText rfl n

theorem Ipv4.newline_not_mem_chars (a : Ipv4) : '\n' ∉ a.chars := by
  have := fun n => Ipv4.not_mem_natText (c := '\n') rfl n
  simp [Ipv4.chars, Text.join, this]

theorem oneLine_address (a : Ipv4) : OneLine a.text := by
  rw [OneLine, Ipv4.text, String.toList_ofList]
  exact a.newline_not_mem_chars

theorem oneLine_subnet (s : Subnet) : OneLine s.text := by
  rw [OneLine, Subnet.text, String.toList_ofList, Subnet.chars, List.mem_append, List.mem_cons,
    not_or, not_or]
  exact ⟨s.address.newline_not_mem_chars, by decide, Ipv4.not_mem_natText rfl _⟩

/-- A blank between two parts of a line belongs to no word. -/
theorem words_between (l r : String) :
    Text.words (l ++ " " ++ r).toList = Text.words l.toList ++ Text.words r.toList := by
  rw [String.toList_append, String.toList_append, List.append_assoc]
  exact Text.words_append rfl _ _

/-- A part of a line that ends in a blank and has the given words. -/
def Opens (front : String) (ws : List String) : Prop :=
  front.toList.getLast? = some ' ' ∧ Text.words front.toList = ws

instance (front : String) (ws : List String) : Decidable (Opens front ws) :=
  inferInstanceAs (Decidable (_ ∧ _))

/-- A blank at the end of the first part of a line belongs to no word either. -/
theorem Opens.words {front : String} {ws : List String} (h : Opens front ws) (r : String) :
    Text.words (front ++ r).toList = ws ++ Text.words r.toList := by
  have hfront : front.toList = front.toList.dropLast ++ ' ' :: [] :=
    (List.dropLast_append_getLast? _ h.1).symm
  have hwords : Text.words front.toList.dropLast = ws := by
    rw [← h.2, hfront, Text.words_append rfl, List.dropLast_concat]
    exact (List.append_nil _).symm
  rw [String.toList_append, hfront, List.append_assoc, ← hwords]
  exact Text.words_append rfl _ _

theorem words_neighborLine (a : Ipv4) (statement : String) :
    Text.words (neighborLine a statement).toList =
      "neighbor" :: a.text :: Text.words statement.toList := by
  have hfront : Opens "  neighbor " ["neighbor"] := by decide
  have hline : neighborLine a statement = "  neighbor " ++ a.text ++ " " ++ statement := rfl
  rw [hline, words_between ("  neighbor " ++ a.text) statement, hfront.words, words_address]
  rfl

/-! ## Written lines -/

theorem oneLine_neighborLine (a : Ipv4) {statement : String} (h : OneLine statement) :
    OneLine (neighborLine a statement) :=
  .append (.append (.append (by decide) (oneLine_address a)) (by decide)) h

theorem oneLine_timersLine (s : SessionSettings) : OneLine (timersLine s) :=
  .append (.append (.append (by decide) (oneLine_decimal _)) (by decide)) (oneLine_decimal _)

theorem oneLine_neighborLines (a : Ipv4) (n : Nat) (s : SessionSettings) :
    ∀ l ∈ neighborLines a n s, OneLine l := by
  simp only [neighborLines, List.forall_mem_cons]
  exact ⟨oneLine_neighborLine a (.append (by decide) (oneLine_decimal _)),
    oneLine_neighborLine a (by decide),
    oneLine_neighborLine a (.append (by decide) (oneLine_decimal _)),
    oneLine_neighborLine a (.append (by decide) (oneLine_decimal _)), fun _ h => nomatch h⟩

/-- The lines of a router's configuration stay lines, if the password is one. -/
theorem oneLine_routerConfig (n : NodeAddresses) {s : SessionSettings} (h : OneLine s.password) :
    ∀ l ∈ routerConfig n s, OneLine l := by
  have hhost : OneLine n.hostname := .append (by decide) (oneLine_decimal _)
  simp only [routerConfig, List.forall_mem_append, List.forall_mem_cons]
  exact ⟨⟨⟨.append (by decide) hhost, by decide, .append (by decide) hhost, .append (by decide) h,
      by decide, .append (by decide) (oneLine_decimal _), .append (by decide) (oneLine_address _),
      oneLine_timersLine s, fun _ h => nomatch h⟩, oneLine_neighborLines _ _ s⟩,
    .append (by decide) (oneLine_subnet _), by decide, by decide, fun _ h => nomatch h⟩

/-- The lines of the speaker's configuration stay lines, if the password is one. -/
theorem oneLine_speakerConfig (nodes : List NodeAddresses) {s : Settings} (h : OneLine s.bgp.password) :
    ∀ l ∈ speakerConfig nodes s, OneLine l := by
  have hsessions : ∀ l ∈ nodes.flatMap (speakerSession s.bgp), OneLine l := by
    intro l hl
    obtain ⟨n, -, hl⟩ := List.mem_flatMap.1 hl
    rcases List.mem_cons.1 hl with rfl | hl
    · decide
    · exact oneLine_neighborLines _ _ _ l hl
  simp only [speakerConfig, List.forall_mem_append, List.forall_mem_cons]
  exact ⟨⟨⟨by decide, by decide, .append (by decide) h, by decide, by decide,
      .append (by decide) (oneLine_decimal _), .append (by decide) (oneLine_address _),
      oneLine_timersLine _, fun _ h => nomatch h⟩, hsessions⟩,
    by decide, oneLine_neighborLine _ (.append (by decide) (oneLine_decimal _)),
    oneLine_neighborLine _ (.append (by decide) (oneLine_decimal _)),
    oneLine_neighborLine _ (.append (by decide) (oneLine_decimal _)), by decide, by decide,
    fun _ h => nomatch h⟩

/-! ## Written statements -/

theorem statement?_localAs (n : Nat) :
    statement? ("router bgp " ++ decimal n) = some (.localAs n) := by
  have hfront : Opens "router bgp " ["router", "bgp"] := by decide
  rw [statement?, hfront.words, words_decimal]
  show (do return .localAs (← readNat? (decimal n).toList)) = some (SessionStatement.localAs n)
  rw [readNat?_decimal]
  rfl

theorem statement?_routerId (a : Ipv4) :
    statement? ("  bgp router-id " ++ a.text) = some (.routerId a) := by
  have hfront : Opens "  bgp router-id " ["bgp", "router-id"] := by decide
  rw [statement?, hfront.words, words_address]
  show (do return .routerId (← Ipv4.read? a.text.toList)) = some (SessionStatement.routerId a)
  rw [Ipv4.read?_text]
  rfl

theorem statement?_timersLine (s : SessionSettings) :
    statement? (timersLine s) = some (.timers s.keepalive.toNat s.hold.toNat) := by
  have hfront : Opens "  timers bgp " ["timers", "bgp"] := by decide
  have hline : timersLine s =
    "  timers bgp " ++ decimal s.keepalive.toNat ++ " " ++ decimal s.hold.toNat := rfl
  rw [statement?, hline, words_between ("  timers bgp " ++ decimal s.keepalive.toNat) _, hfront.words,
    words_decimal, words_decimal]
  show (do
      let keepalive ← readNat? (decimal s.keepalive.toNat).toList
      let hold ← readNat? (decimal s.hold.toNat).toList
      return .timers keepalive hold) = some (SessionStatement.timers _ _)
  rw [readNat?_decimal, readNat?_decimal]
  rfl

theorem statement?_remoteAs (a : Ipv4) (n : Nat) :
    statement? (neighborLine a ("remote-as " ++ decimal n)) = some (.remoteAs a n) := by
  have hfront : Opens "remote-as " ["remote-as"] := by decide
  rw [statement?, words_neighborLine, hfront.words, words_decimal]
  show (do return .remoteAs (← Ipv4.read? a.text.toList) (← readNat? (decimal n).toList)) =
    some (SessionStatement.remoteAs a n)
  rw [Ipv4.read?_text, readNat?_decimal]
  rfl

theorem statement?_connectTimer (a : Ipv4) (n : Nat) :
    statement? (neighborLine a ("timers connect " ++ decimal n)) = some (.connectTimer a n) := by
  have hfront : Opens "timers connect " ["timers", "connect"] := by decide
  rw [statement?, words_neighborLine, hfront.words, words_decimal]
  show (do return .connectTimer (← Ipv4.read? a.text.toList) (← readNat? (decimal n).toList)) =
    some (SessionStatement.connectTimer a n)
  rw [Ipv4.read?_text, readNat?_decimal]
  rfl

theorem statement?_advertisementInterval (a : Ipv4) (n : Nat) :
    statement? (neighborLine a ("advertisement-interval " ++ decimal n)) =
      some (.advertisementInterval a n) := by
  have hfront : Opens "advertisement-interval " ["advertisement-interval"] := by decide
  rw [statement?, words_neighborLine, hfront.words, words_decimal]
  show (do return .advertisementInterval (← Ipv4.read? a.text.toList) (← readNat? (decimal n).toList)) =
    some (SessionStatement.advertisementInterval a n)
  rw [Ipv4.read?_text, readNat?_decimal]
  rfl

/-- The words with which a line about sessions starts. -/
def sessionKeywords : List String := ["router", "bgp", "timers", "neighbor"]

/-- A line that starts with another word makes no statement about sessions. -/
theorem ofWords?_eq_none {w : String} {ws : List String} (h : w ∉ sessionKeywords) :
    SessionStatement.ofWords? (w :: ws) = none := by
  unfold SessionStatement.ofWords?
  split
  · next heq => cases heq; simp [sessionKeywords] at h
  · next heq => cases heq; simp [sessionKeywords] at h
  · next heq => cases heq; simp [sessionKeywords] at h
  · next heq => cases heq; simp [sessionKeywords] at h
  · next heq => cases heq; simp [sessionKeywords] at h
  · next heq => cases heq; simp [sessionKeywords] at h
  · rfl

/-- A line that starts with another word makes no statement about sessions, whatever follows. -/
theorem Opens.statement?_eq_none {front w : String} {ws : List String} (hfront : Opens front (w :: ws))
    (h : w ∉ sessionKeywords) (r : String) : statement? (front ++ r) = none := by
  rw [statement?, hfront.words, List.cons_append, ofWords?_eq_none h]

theorem statement?_passwordLine (password : String) : statement? (passwordLine password) = none := by
  have hfront : Opens "password " ["password"] := by decide
  exact hfront.statement?_eq_none (by decide) password

theorem statement?_multihop (a : Ipv4) : statement? (neighborLine a "ebgp-multihop") = none := by
  have hwords : Text.words "ebgp-multihop".toList = ["ebgp-multihop"] := by decide
  rw [statement?, words_neighborLine, hwords]
  rfl

theorem statement?_port (a : Ipv4) (n : Nat) :
    statement? (neighborLine a ("port " ++ decimal n)) = none := by
  have hfront : Opens "port " ["port"] := by decide
  rw [statement?, words_neighborLine, hfront.words, words_decimal]
  rfl

end BackboneLab
