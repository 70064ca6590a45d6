import BackboneLab.Proofs.Backbone.AddressPlan
import BackboneLab.Proofs.Configuration.Announcements
import BackboneLab.Proofs.Configuration.FileSet
import BackboneLab.Proofs.Text.Split

/-!
# Configurations with two passwords

The password of the daemons is written into their configurations as it is, so that its line feeds end lines
there. Every text of a configuration has the lines of the password between lines that do not depend on it
(`PastesPassword.holdsPassword`). Two passwords without line feeds therefore make the same configurations
apart from the line that sets the password, while one with line feeds can add any line, even one that
announces a network. The main statement is `password_confined`.
-/

namespace BackboneLab

/-! ## The lines of a password -/

/-- The settings with another password for the daemons. -/
def Settings.withPassword (s : Settings) (password : String) : Settings :=
  { s with bgp := { s.bgp with password } }

/-- Whether a line sets a password. -/
def isPasswordLine (line : List Char) : Bool := "password ".toList.isPrefixOf line

/-- The lines as which the line that sets the password is read: one, and another one for every line feed
of the password. -/
def passwordLines (password : String) : List (List Char) :=
  (Text.splitOn '\n' (passwordLine password).toList).map Text.stripReturn

/-- The lines that set no password. -/
def otherLines (lines : List (List Char)) : List (List Char) := lines.filter fun l => !isPasswordLine l

/-- The first line of a password sets it. -/
theorem exists_passwordLines (password : String) :
    ∃ first further, passwordLines password = ("password ".toList ++ first) :: further := by
  have hline : (passwordLine password).toList = "password ".toList ++ password.toList :=
    String.toList_append
  rw [passwordLines, hline, Text.splitOn_append_left (by decide)]
  cases hs : Text.splitOn '\n' password.toList with
  | nil => exact absurd hs (Text.splitOn_ne_nil _ _)
  | cons first further =>
    rw [List.modifyHead_cons, List.map_cons, Text.stripReturn_append (by decide)]
    exact ⟨_, _, rfl⟩

/-- A password without line feeds stays on the line that sets it. -/
theorem passwordLines_of_oneLine {password : String} (h : OneLine password) :
    ∃ line, passwordLines password = [line] ∧ isPasswordLine line = true ∧ isNetworkLine line = false := by
  have hlength : (passwordLines password).length = 1 := by
    have hline : OneLine (passwordLine password) := .append (by decide) h
    rw [passwordLines, Text.splitOn_eq_singleton hline]
    rfl
  obtain ⟨first, further, hlines⟩ := exists_passwordLines password
  rw [hlines, List.length_cons, Nat.add_eq_right, List.length_eq_zero_iff] at hlength
  subst hlength
  exact ⟨_, hlines, rfl, rfl⟩

/-- Nothing but the line that sets it is left of such a password. -/
theorem otherLines_passwordLines {password : String} (h : OneLine password) :
    otherLines (passwordLines password) = [] := by
  obtain ⟨line, hlines, hsets, -⟩ := passwordLines_of_oneLine h
  rw [hlines, otherLines, List.filter_singleton, hsets]
  rfl

/-! ## Configurations around a password -/

/-- A text that does not begin like the line that sets a password. -/
def BeginsOtherwise (l : String) : Prop := l.toList.head?.any (· != 'p') = true

instance (l : String) : Decidable (BeginsOtherwise l) :=
  inferInstanceAs (Decidable (l.toList.head?.any (· != 'p') = true))

theorem BeginsOtherwise.append {l : String} (h : BeginsOtherwise l) (r : String) :
    BeginsOtherwise (l ++ r) := by
  unfold BeginsOtherwise at h ⊢
  rw [String.toList_append, List.head?_append]
  cases hhead : l.toList.head? with
  | none => simp [hhead] at h
  | some c => rwa [hhead] at h

/-- A configuration that has the line of its password between lines that do not depend on it. -/
structure PastesPassword (config : String → List String) (front back : List String) : Prop where
  config_eq : ∀ password, config password = front ++ passwordLine password :: back ++ ["log stdout"]
  /-- No line has a line feed, unless it comes from the password. -/
  oneLine : ∀ l ∈ config "", OneLine l
  beginsOtherwise : ∀ l ∈ front ++ back, BeginsOtherwise l

/-- A text that has the lines of a password between other lines, which announce so many networks. -/
structure HoldsPassword (front back : List (List Char)) (networks : Nat) (password text : String) :
    Prop where
  lines : Text.lines text.toList = front ++ passwordLines password ++ back
  sets_none : ∀ l ∈ front ++ back, isPasswordLine l = false
  count : countNetworks text = networks + (passwordLines password).countP isNetworkLine

/-- A line as it is read. -/
def lineOf (l : String) : List Char := Text.stripReturn l.toList

theorem BeginsOtherwise.isPasswordLine_lineOf {l : String} (h : BeginsOtherwise l) :
    isPasswordLine (lineOf l) = false := by
  refine Bool.eq_false_iff.2 fun hsets => ?_
  obtain ⟨rest, hrest⟩ := (List.isPrefixOf_iff_prefix.1 hsets).trans (Text.stripReturn_prefix l.toList)
  rw [BeginsOtherwise, ← hrest] at h
  cases h

/-- A text is read as the lines that it was put together from, and as further ones if these have line
feeds. -/
theorem lines_textOfLines_concat (ls : List String) {last : String} (h : OneLine last) (hne : last ≠ "") :
    Text.lines (textOfLines (ls ++ [last])).toList =
      ls.flatMap (fun l => (Text.splitOn '\n' l.toList).map Text.stripReturn) ++ [last.toList] := by
  have hparts : Text.splitOn '\n' (textOfLines (ls ++ [last])).toList =
      ls.flatMap (fun l => Text.splitOn '\n' l.toList) ++ [last.toList] := by
    rw [textOfLines, String.toList_ofList, Text.splitOn_join_eq_flatMap (by simp), List.flatMap_map,
      List.flatMap_append, List.flatMap_singleton, Text.splitOn_eq_singleton h]
  have hlast : last.toList.isEmpty = false := by simpa using hne
  rw [Text.lines, hparts, List.dropLast_concat, List.getLast?_concat, List.map_flatMap, Option.toList_some,
    List.filter_cons_of_pos (by rw [hlast]; rfl), List.filter_nil]

theorem flatMap_oneLines {ls : List String} (h : ∀ l ∈ ls, OneLine l) :
    ls.flatMap (fun l => (Text.splitOn '\n' l.toList).map Text.stripReturn) = ls.map lineOf := by
  rw [← List.flatMap_singleton' (ls.map lineOf), List.flatMap_map]
  exact List.flatMap_congr fun l hl => by rw [Text.splitOn_eq_singleton (h l hl)]; rfl

namespace PastesPassword

variable {config : String → List String} {front back : List String}

/-- A text with a password has the lines of the password between the other ones. -/
theorem lines_eq (h : PastesPassword config front back) (password : String) :
    Text.lines (textOfLines (config password)).toList =
      front.map lineOf ++ passwordLines password ++ (back ++ ["log stdout"]).map lineOf := by
  have honeLine := h.oneLine
  rw [h.config_eq, List.forall_mem_append, List.forall_mem_append, List.forall_mem_cons] at honeLine
  obtain ⟨⟨hfront, -, hback⟩, -⟩ := honeLine
  have hlast : lineOf "log stdout" = "log stdout".toList := by decide
  rw [h.config_eq, lines_textOfLines_concat _ (by decide) (by decide), List.flatMap_append,
    List.flatMap_cons, flatMap_oneLines hfront, flatMap_oneLines hback, List.map_append,
    List.map_singleton, hlast]
  simp only [passwordLines, List.append_assoc]

theorem isPasswordLine_eq_false (h : PastesPassword config front back) :
    ∀ l ∈ front.map lineOf ++ (back ++ ["log stdout"]).map lineOf, isPasswordLine l = false := by
  rw [← List.map_append, ← List.append_assoc]
  intro line hline
  obtain ⟨l, hl, rfl⟩ := List.mem_map.1 hline
  rcases List.mem_append.1 hl with hl | hl
  · exact (h.beginsOtherwise l hl).isPasswordLine_lineOf
  · rw [List.mem_singleton.1 hl]
    rfl

/-- Networks are announced by the other lines, which announce as many of them as with an empty password,
and by the lines of the password. -/
theorem holdsPassword (h : PastesPassword config front back) {networks : Nat}
    (hcount : countNetworks (textOfLines (config "")) = networks) (password : String) :
    HoldsPassword (front.map lineOf) ((back ++ ["log stdout"]).map lineOf) networks password
      (textOfLines (config password)) where
  lines := h.lines_eq password
  sets_none := h.isPasswordLine_eq_false
  count := by
    have hempty : (passwordLines "").countP isNetworkLine = 0 := by decide
    rw [countNetworks, h.lines_eq, List.countP_append, List.countP_append] at hcount ⊢
    omega

end PastesPassword

/-- Two texts with two passwords that are the same around the lines of their passwords. -/
structure DifferByPassword (p q : String) (networks : Nat) (x y : String) : Prop where
  around : ∃ front back, HoldsPassword front back networks p x ∧ HoldsPassword front back networks q y
  /-- Apart from the lines that set a password, the texts are the same exactly if the passwords are. -/
  otherLines_eq_iff : otherLines (Text.lines x.toList) = otherLines (Text.lines y.toList) ↔
    otherLines (passwordLines p) = otherLines (passwordLines q)
  /-- Passwords without line feeds only change the single line that sets them. -/
  oneLine : OneLine p → OneLine q →
    otherLines (Text.lines x.toList) = otherLines (Text.lines y.toList) ∧
      (Text.lines x.toList).countP isPasswordLine = 1 ∧
      (Text.lines y.toList).countP isPasswordLine = 1 ∧
      countNetworks x = networks ∧ countNetworks y = networks

namespace HoldsPassword

variable {front back : List (List Char)} {networks : Nat} {p q x y : String}

/-- A password without line feeds takes up one line, which announces nothing. -/
theorem of_oneLine (h : HoldsPassword front back networks p x) (hp : OneLine p) :
    (Text.lines x.toList).countP isPasswordLine = 1 ∧ countNetworks x = networks := by
  obtain ⟨line, hlines, hsets, hnetwork⟩ := passwordLines_of_oneLine hp
  obtain ⟨hfront, hback⟩ := List.forall_mem_append.1 h.sets_none
  have hnone : ∀ ls : List (List Char), (∀ l ∈ ls, isPasswordLine l = false) →
      ls.countP isPasswordLine = 0 := fun ls hls =>
    List.countP_eq_zero.2 fun l hl => by simp [hls l hl]
  constructor
  · rw [h.lines, hlines, List.countP_append, List.countP_append, hnone front hfront, hnone back hback,
      List.countP_singleton, if_pos hsets]
  · rw [h.count, hlines, List.countP_singleton, hnetwork]
    rfl

theorem differByPassword (hx : HoldsPassword front back networks p x)
    (hy : HoldsPassword front back networks q y) : DifferByPassword p q networks x y := by
  have hsame : otherLines (Text.lines x.toList) = otherLines (Text.lines y.toList) ↔
      otherLines (passwordLines p) = otherLines (passwordLines q) := by
    rw [hx.lines, hy.lines]
    simp only [otherLines, List.filter_append, List.append_cancel_left_eq, List.append_cancel_right_eq]
  refine ⟨⟨front, back, hx, hy⟩, hsame, fun hp hq => ?_⟩
  obtain ⟨hsetsx, hcountx⟩ := hx.of_oneLine hp
  obtain ⟨hsetsy, hcounty⟩ := hy.of_oneLine hq
  refine ⟨hsame.2 ?_, hsetsx, hsetsy, hcountx, hcounty⟩
  rw [otherLines_passwordLines hp, otherLines_passwordLines hq]

end HoldsPassword

theorem PastesPassword.differByPassword {config : String → List String}
    (h : ∃ front back, PastesPassword config front back) {networks : Nat}
    (hcount : countNetworks (textOfLines (config "")) = networks) (p q : String) :
    DifferByPassword p q networks (textOfLines (config p)) (textOfLines (config q)) := by
  obtain ⟨front, back, h⟩ := h
  exact (h.holdsPassword hcount p).differByPassword (h.holdsPassword hcount q)

/-! ## The configurations of the daemons -/

theorem oneLine_empty : OneLine "" := by decide

theorem beginsOtherwise_neighborLine (neighbor : Ipv4) (statement : String) :
    BeginsOtherwise (neighborLine neighbor statement) :=
  .append (.append (.append (by decide) _) _) _

theorem beginsOtherwise_neighborLines (neighbor : Ipv4) (asNumber : Nat) (s : SessionSettings) :
    ∀ l ∈ neighborLines neighbor asNumber s, BeginsOtherwise l := by
  simp only [neighborLines, List.forall_mem_cons]
  exact ⟨beginsOtherwise_neighborLine _ _, beginsOtherwise_neighborLine _ _,
    beginsOtherwise_neighborLine _ _, beginsOtherwise_neighborLine _ _, List.forall_mem_nil _⟩

theorem beginsOtherwise_timersLine (s : SessionSettings) : BeginsOtherwise (timersLine s) :=
  .append (.append (.append (by decide) _) _) _

theorem pastesPassword_routerConfig (n : NodeAddresses) (s : SessionSettings) :
    ∃ front back, PastesPassword (fun password => routerConfig n { s with password }) front back := by
  refine ⟨["! BGP configuration for " ++ n.hostname, "!", "hostname " ++ n.hostname],
    ["!", "router bgp " ++ decimal (n.asNumber s.baseAs.toNat), "  bgp router-id " ++ n.routerId.text,
      timersLine s] ++ neighborLines n.peeringAddr s.baseAs.toNat s ++
      ["  network " ++ n.hostPrefix.text, "!"], ⟨fun _ => rfl, oneLine_routerConfig n oneLine_empty, ?_⟩⟩
  simp only [List.forall_mem_append, List.forall_mem_cons]
  exact ⟨⟨.append (by decide) _, by decide, .append (by decide) _, List.forall_mem_nil _⟩,
    ⟨⟨by decide, .append (by decide) _, .append (by decide) _, beginsOtherwise_timersLine s,
      List.forall_mem_nil _⟩, beginsOtherwise_neighborLines _ _ s⟩,
    .append (by decide) _, by decide, List.forall_mem_nil _⟩

theorem pastesPassword_speakerConfig (nodes : List NodeAddresses) (s : Settings) :
    ∃ front back, PastesPassword (fun password => speakerConfig nodes (s.withPassword password))
      front back := by
  refine ⟨["!", "hostname bgp"],
    ["!", "!", "router bgp " ++ decimal32 s.bgp.baseAs, "  bgp router-id " ++ s.speaker.routerId.text,
      timersLine s.bgp] ++ nodes.flatMap (speakerSession s.bgp) ++
      ["  ! ONOS",
        neighborLine s.controller.bgpPeer ("remote-as " ++ decimal32 s.bgp.baseAs),
        neighborLine s.controller.bgpPeer ("port " ++ decimal s.controller.bgpPort.toNat),
        neighborLine s.controller.bgpPeer ("timers connect " ++ decimal32 s.bgp.connectTimer), "!"],
    ⟨fun password => ?_, oneLine_speakerConfig nodes oneLine_empty, ?_⟩⟩
  · have hsessions : speakerSession (s.withPassword password).bgp = speakerSession s.bgp := rfl
    simp only [speakerConfig, hsessions, List.cons_append, List.nil_append, List.append_assoc]
    rfl
  · have hsessions : ∀ l ∈ nodes.flatMap (speakerSession s.bgp), BeginsOtherwise l := by
      intro l hl
      obtain ⟨n, -, hl⟩ := List.mem_flatMap.1 hl
      rcases List.mem_cons.1 hl with rfl | hl
      · decide
      · exact beginsOtherwise_neighborLines _ _ _ l hl
    simp only [List.forall_mem_append, List.forall_mem_cons]
    exact ⟨⟨by decide, by decide, List.forall_mem_nil _⟩,
      ⟨⟨by decide, by decide, .append (by decide) _, .append (by decide) _,
        beginsOtherwise_timersLine _, List.forall_mem_nil _⟩, hsessions⟩,
      by decide, beginsOtherwise_neighborLine _ _, beginsOtherwise_neighborLine _ _,
      beginsOtherwise_neighborLine _ _, by decide, List.forall_mem_nil _⟩

theorem pastesPassword_zebraConfig (s : SessionSettings) :
    ∃ front back, PastesPassword (fun password => zebraConfig { s with password }) front back := by
  refine ⟨["! Configuration for zebra (NB: it is the same for all routers)", "!", "hostname zebra"], [],
    ⟨fun _ => rfl, ?_, by decide⟩⟩
  simp only [zebraConfig]
  decide +kernel

/-! ## The files of a backbone -/

/-- The files of the configurations of all daemons, for so many routers. -/
def daemonFiles (routers : Nat) : List String :=
  (List.range' 1 routers).map routerConfigFile ++ [speakerConfigFile, zebraConfigFile]

/-- The files of two passwords under one name, for a daemon that announces so many networks. -/
def FilesDiffer (b c : Artifacts) (p q : String) (networks : Nat) (name : String) : Prop :=
  ∃ x y, b.files.find? name = some x ∧ c.files.find? name = some y ∧ DifferByPassword p q networks x y

/-- The controller is told nothing about the password of the daemons, and neither is its display. -/
theorem find?_files_withPassword {plan : AddressPlan} {name : String}
    (hindices : plan.nodes.map NodeAddresses.index = List.range' 1 plan.nodes.length)
    (h : name ∉ daemonFiles plan.nodes.length) (s : Settings) (p q : String) :
    (Artifacts.ofPlan plan (s.withPassword p)).files.find? name =
      (Artifacts.ofPlan plan (s.withPassword q)).files.find? name := by
  rw [daemonFiles, ← hindices, List.mem_append, not_or, List.map_map] at h
  have htexts : ∀ password, (Artifacts.ofPlan plan (s.withPassword password)).texts.filter (·.1 = name) =
      [(networkConfigFile, toPrettyJson (NetworkConfig.ofNodes plan.nodes s)),
        (displayFile, toPrettyJson (DisplayHints.ofNodes plan.nodes s))].filter (·.1 = name) := by
    intro password
    have hrouters : ((Artifacts.ofPlan plan (s.withPassword password)).routerConfigs.map fun c =>
        (routerConfigFile c.1, textOfLines c.2)).filter (·.1 = name) = [] := by
      refine List.filter_eq_nil_iff.2 fun file hfile hname => h.1 ?_
      obtain ⟨config, hconfig, rfl⟩ := List.mem_map.1 hfile
      obtain ⟨n, hn, rfl⟩ := List.mem_map.1 hconfig
      exact List.mem_map.2 ⟨n, hn, of_decide_eq_true hname⟩
    have hspeaker : speakerConfigFile ≠ name := fun hname => h.2 (by simp [hname])
    have hzebra : zebraConfigFile ≠ name := fun hname => h.2 (by simp [hname])
    rw [Artifacts.texts, List.filter_append, hrouters, List.nil_append,
      List.filter_cons_of_neg (by simpa using hspeaker), List.filter_cons_of_neg (by simpa using hzebra)]
    rfl
  rw [Artifacts.files_eq, Artifacts.files_eq, OrderedMap.find?_ofList, OrderedMap.find?_ofList, htexts,
    htexts]

section
variable {t : Topology} {s : Settings} {plan : AddressPlan}

/-- Whether a backbone can be configured does not depend on the password. -/
theorem compile_withPassword {a : Artifacts} (h : compile t s = .ok a) :
    ∃ plan, AddressPlan.Lists s.reserved t.names plan.nodes ∧
      ∀ password, compile t (s.withPassword password) = .ok (.ofPlan plan (s.withPassword password)) := by
  obtain ⟨plan, hplan, -⟩ := compile_eq_ok h
  refine ⟨plan, AddressPlan.ofNames_lists hplan, fun password => ?_⟩
  have hplan' : AddressPlan.ofTopology t (s.withPassword password).reserved = .ok plan := hplan
  rw [compile_eq, hplan']
  rfl

theorem filesDiffer_router (h : AddressPlan.Lists s.reserved t.names plan.nodes) (p q : String) {i : Nat}
    (hfirst : 1 ≤ i) (hlast : i ≤ t.size) :
    FilesDiffer (.ofPlan plan (s.withPassword p)) (.ofPlan plan (s.withPassword q)) p q 1
      (routerConfigFile i) := by
  have hlength : plan.nodes.length = t.size := h.length_eq
  have hi : i ∈ plan.nodes.map NodeAddresses.index := by
    rw [h.map_index, List.mem_range'_1]
    omega
  obtain ⟨n, hn, rfl⟩ := List.mem_map.1 hi
  have hfiles := fun password => Artifacts.filesHold_ofPlan h.index_nodup (s.withPassword password)
  exact ⟨_, _, (hfiles p).router_of_mem hn, (hfiles q).router_of_mem hn, PastesPassword.differByPassword
    (pastesPassword_routerConfig n s.bgp) (countNetworks_routerConfig n oneLine_empty) p q⟩

theorem filesDiffer_speaker (h : AddressPlan.Lists s.reserved t.names plan.nodes) (p q : String) :
    FilesDiffer (.ofPlan plan (s.withPassword p)) (.ofPlan plan (s.withPassword q)) p q 0
      speakerConfigFile := by
  have hfiles := fun password => Artifacts.filesHold_ofPlan h.index_nodup (s.withPassword password)
  exact ⟨_, _, (hfiles p).speaker, (hfiles q).speaker, PastesPassword.differByPassword
    (pastesPassword_speakerConfig plan.nodes s) (countNetworks_speakerConfig _ oneLine_empty) p q⟩

theorem filesDiffer_zebra (h : AddressPlan.Lists s.reserved t.names plan.nodes) (p q : String) :
    FilesDiffer (.ofPlan plan (s.withPassword p)) (.ofPlan plan (s.withPassword q)) p q 0
      zebraConfigFile := by
  have hcount : countNetworks (textOfLines (zebraConfig { s.bgp with password := "" })) = 0 := by
    simp only [zebraConfig]
    decide +kernel
  have hfiles := fun password => Artifacts.filesHold_ofPlan h.index_nodup (s.withPassword password)
  exact ⟨_, _, (hfiles p).zebra, (hfiles q).zebra, PastesPassword.differByPassword
    (pastesPassword_zebraConfig s.bgp) hcount p q⟩

/-- A line feed ends the line that sets a password, and what follows it can announce a network. -/
theorem password_announces :
    let t : Topology := ⟨.ofList ["Denver"], .empty, by decide, fun _ h => nomatch h⟩
    let p := "sdnip"
    let q := "sdnip\n  network 10.9.9.0/24"
    ∃ b c x y, compile t (Settings.default.withPassword p) = .ok b ∧
      compile t (Settings.default.withPassword q) = .ok c ∧
      b.files.find? (routerConfigFile 1) = some x ∧ c.files.find? (routerConfigFile 1) = some y ∧
      otherLines (Text.lines x.toList) ≠ otherLines (Text.lines y.toList) ∧
      countNetworks x = 1 ∧ countNetworks y = 2 := by
  intro t p q
  obtain ⟨plan, hlists, hcompile⟩ := compile_withPassword (t := t) (s := .default) rfl
  obtain ⟨x, y, hx, hy, hdiffer⟩ := filesDiffer_router hlists p q (le_refl 1) (by decide)
  obtain ⟨front, back, hholdsx, hholdsy⟩ := hdiffer.around
  refine ⟨_, _, x, y, hcompile p, hcompile q, hx, hy, fun hsame => ?_, ?_, ?_⟩
  · exact absurd (hdiffer.otherLines_eq_iff.1 hsame) (by decide +kernel)
  · rw [hholdsx.count]
    decide +kernel
  · rw [hholdsy.count]
    decide +kernel

/-- Two passwords make the same files except for the configurations of the daemons, and these have the same
lines around those of the password. Without line feeds in the passwords, only the line that sets them
differs, and every router announces one network and the speaker none. -/
theorem password_confined {a : Artifacts} (h : compile t s = .ok a) (p q : String) :
    ∃ b c, compile t (s.withPassword p) = .ok b ∧ compile t (s.withPassword q) = .ok c ∧
      (∀ name, name ∉ daemonFiles t.size → b.files.find? name = c.files.find? name) ∧
      (∀ i, 1 ≤ i → i ≤ t.size → FilesDiffer b c p q 1 (routerConfigFile i)) ∧
      FilesDiffer b c p q 0 speakerConfigFile ∧ FilesDiffer b c p q 0 zebraConfigFile := by
  obtain ⟨plan, hlists, hcompile⟩ := compile_withPassword h
  have hlength : plan.nodes.length = t.size := hlists.length_eq
  refine ⟨_, _, hcompile p, hcompile q, fun name hname => ?_, fun i => filesDiffer_router hlists p q,
    filesDiffer_speaker hlists p q, filesDiffer_zebra hlists p q⟩
  exact find?_files_withPassword hlists.map_index (hlength ▸ hname) s p q

/-- A password that would announce a network on a line of its own, and one with a carriage return, for two
routers. -/
theorem password_confined_two_routers :
    let t : Topology := ⟨.ofList ["Denver", "Seattle"], .empty, by decide, fun _ h => nomatch h⟩
    let p := "network 10.9.9.0/24"
    let q := "secret\r"
    ∃ b c x y, compile t (Settings.default.withPassword p) = .ok b ∧
      compile t (Settings.default.withPassword q) = .ok c ∧
      b.files.find? "quagga2.conf" = some x ∧ c.files.find? "quagga2.conf" = some y ∧
      otherLines (Text.lines x.toList) = otherLines (Text.lines y.toList) ∧
      countNetworks x = 1 ∧ countNetworks y = 1 := by
  intro t p q
  obtain ⟨a, ha⟩ : ∃ a, compile t .default = .ok a := ⟨_, rfl⟩
  obtain ⟨b, c, hb, hc, -, hrouters, -, -⟩ := password_confined ha p q
  obtain ⟨x, y, hx, hy, hdiffer⟩ := hrouters 2 (by decide) (by decide)
  obtain ⟨hother, -, -, hcountx, hcounty⟩ := hdiffer.oneLine (by decide) (by decide)
  exact ⟨b, c, x, y, hb, hc, hx, hy, hother, hcountx, hcounty⟩

end

end BackboneLab
