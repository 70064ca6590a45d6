import BackboneLab.Proofs.Document.Exchange
import BackboneLab.Proofs.Document.Members
import BackboneLab.Settings.Deployment

/-!
# Settings from documents with some of their keys

A document of settings may leave out whole sections and values of sections, and it may have keys that no
settings have. `SettingsKeys` chooses the keys that are left, `SettingsKeys.cut` takes the others out of a
tree, and `Settings.keeping` says what they stand for: their defaults. The main statement is
`settings_from_keys`.
-/

namespace BackboneLab

/-! ## The keys that are left -/

/-- The keys that are left in a document of settings: its sections, and the values of each section. -/
structure SettingsKeys where
  hasSection : String → Bool
  hasKey : String → String → Bool

/-- The tree of a document of settings, without the keys that are not left. -/
def SettingsKeys.cut (k : SettingsKeys) (d : Datum) : Datum :=
  (d.mapMembers fun name => Datum.keepMembers (k.hasKey name)).keepMembers k.hasSection

/-! ## What they stand for -/

/-- The sessions with the values that are left, and the defaults for the others. -/
def SessionSettings.keeping (has : String → Bool) (s : SessionSettings) : SessionSettings :=
  let d := Settings.default.bgp
  { baseAs := if has "base_as" then s.baseAs else d.baseAs
    password := if has "password" then s.password else d.password
    keepalive := if has "keepalive" then s.keepalive else d.keepalive
    hold := if has "hold" then s.hold else d.hold
    connectTimer := if has "connect_timer" then s.connectTimer else d.connectTimer
    advertisementInterval :=
      if has "advertisement_interval" then s.advertisementInterval else d.advertisementInterval }

/-- The speaker with the values that are left, and the defaults for the others. -/
def SpeakerSettings.keeping (has : String → Bool) (s : SpeakerSettings) : SpeakerSettings :=
  let d := Settings.default.speaker
  { name := if has "name" then s.name else d.name
    routerId := if has "router_id" then s.routerId else d.routerId
    mac := if has "mac" then s.mac else d.mac
    switch := if has "switch" then s.switch else d.switch
    port := if has "port" then s.port else d.port }

/-- The controller with the values that are left, and the defaults for the others. -/
def ControllerSettings.keeping (has : String → Bool) (s : ControllerSettings) : ControllerSettings :=
  let d := Settings.default.controller
  { bgpPeer := if has "bgp_peer" then s.bgpPeer else d.bgpPeer
    bgpPort := if has "bgp_port" then s.bgpPort else d.bgpPort
    restHost := if has "rest_host" then s.restHost else d.restHost
    restPort := if has "rest_port" then s.restPort else d.restPort
    username := if has "username" then s.username else d.username
    password := if has "password" then s.password else d.password
    flowPollFrequency :=
      if has "flow_poll_frequency" then s.flowPollFrequency else d.flowPollFrequency }

/-- The course of an experiment with the values that are left, and the defaults for the others. -/
def SyncSettings.keeping (has : String → Bool) (s : SyncSettings) : SyncSettings :=
  let d := Settings.default.sync
  { pollIntervalMillis := if has "poll_interval_ms" then s.pollIntervalMillis else d.pollIntervalMillis
    pollTimeoutSeconds := if has "poll_timeout_s" then s.pollTimeoutSeconds else d.pollTimeoutSeconds
    triggerPort := if has "trigger_port" then s.triggerPort else d.triggerPort
    bundlePort := if has "bundle_port" then s.bundlePort else d.bundlePort
    trafficTool := if has "traffic_tool" then s.trafficTool else d.trafficTool }

/-- The directories that are left, and the defaults for the others. -/
def QuaggaSettings.keeping (has : String → Bool) (s : QuaggaSettings) : QuaggaSettings :=
  let d := Settings.default.quagga
  { binDir := if has "bin_dir" then s.binDir else d.binDir
    runDir := if has "run_dir" then s.runDir else d.runDir }

/-- The settings with the keys that are left, and the defaults for the others. -/
def Settings.keeping (k : SettingsKeys) (s : Settings) : Settings :=
  let d := Settings.default
  { bgp := if k.hasSection "bgp" then s.bgp.keeping (k.hasKey "bgp") else d.bgp
    speaker := if k.hasSection "speaker" then s.speaker.keeping (k.hasKey "speaker") else d.speaker
    controller :=
      if k.hasSection "controller" then s.controller.keeping (k.hasKey "controller") else d.controller
    reserved := if k.hasSection "reserved" then s.reserved else d.reserved
    sync := if k.hasSection "sync" then s.sync.keeping (k.hasKey "sync") else d.sync
    quagga := if k.hasSection "quagga" then s.quagga.keeping (k.hasKey "quagga") else d.quagga }

/-! ## Documents with further keys -/

namespace Settings

/-- The names of the sections. -/
def sectionNames : List String := ["bgp", "speaker", "controller", "reserved", "sync", "quagga"]

/-- The names of the values of a section. For the reserved indices, those of the values of a rule. -/
def valueNames : String → List String
  | "bgp" => ["base_as", "password", "keepalive", "hold", "connect_timer", "advertisement_interval"]
  | "speaker" => ["name", "router_id", "mac", "switch", "port"]
  | "controller" =>
    ["bgp_peer", "bgp_port", "rest_host", "rest_port", "username", "password", "flow_poll_frequency"]
  | "reserved" => ["index", "substitute"]
  | "sync" => ["poll_interval_ms", "poll_timeout_s", "trigger_port", "bundle_port", "traffic_tool"]
  | "quagga" => ["bin_dir", "run_dir"]
  | _ => []

/-- The trees of a section agree on its values, or those of the rules for reserved indices on theirs. -/
def SectionAgrees (name : String) : Datum → Datum → Prop :=
  if name = "reserved" then Datum.AgreeOnItems (Datum.AgreeOn (valueNames name) fun _ => Eq)
  else Datum.AgreeOn (valueNames name) fun _ => Eq

/-- Two trees of documents of settings agree but for keys that no settings have: at the top, in a section
or in a rule for a reserved index. -/
abbrev Agree : Datum → Datum → Prop := Datum.AgreeOn sectionNames SectionAgrees

theorem sectionAgrees_refl (name : String) (d : Datum) : SectionAgrees name d d := by
  rw [SectionAgrees]
  split
  · exact .same d
  · exact .same d

end Settings

/-! ## Sections -/

theorem Generator.kept (g : Generator) : Kept g := by
  cases g <;> rfl

/-! Of each section, what is left is read back, and the rest takes its defaults. -/

section
variable {has : String → Bool}

theorem SessionSettings.decode_keepMembers (s : SessionSettings) :
    decode ((encode s).inJson.keepMembers has) = some (s.keeping has) := by
  refine BackboneLab.decode_keepMembers (inJson_object _) (fun _ => rfl) (List.Sublist.refl _)
    (by decide) ?_
  rw [Fields.withDefault_filter rfl (kept_uint32 s.baseAs),
    Fields.withDefault_filter rfl (kept_string s.password),
    Fields.withDefault_filter rfl (kept_uint32 s.keepalive),
    Fields.withDefault_filter rfl (kept_uint32 s.hold),
    Fields.withDefault_filter rfl (kept_uint32 s.connectTimer),
    Fields.withDefault_filter rfl (kept_uint32 s.advertisementInterval)]
  rfl

theorem SpeakerSettings.decode_keepMembers (s : SpeakerSettings) :
    decode ((encode s).inJson.keepMembers has) = some (s.keeping has) := by
  refine BackboneLab.decode_keepMembers (inJson_object _) (fun _ => rfl) (List.Sublist.refl _)
    (by decide) ?_
  rw [Fields.withDefault_filter rfl (kept_string s.name),
    Fields.withDefault_filter rfl (kept_ipv4 s.routerId),
    Fields.withDefault_filter rfl (kept_string s.mac),
    Fields.withDefault_filter rfl (kept_uint64 s.switch),
    Fields.withDefault_filter rfl (kept_uint32 s.port)]
  rfl

theorem ControllerSettings.decode_keepMembers (s : ControllerSettings) :
    decode ((encode s).inJson.keepMembers has) = some (s.keeping has) := by
  refine BackboneLab.decode_keepMembers (inJson_object _) (fun _ => rfl) (List.Sublist.refl _)
    (by decide) ?_
  rw [Fields.withDefault_filter rfl (kept_ipv4 s.bgpPeer),
    Fields.withDefault_filter rfl (kept_uint16 s.bgpPort),
    Fields.withDefault_filter rfl (kept_string s.restHost),
    Fields.withDefault_filter rfl (kept_uint16 s.restPort),
    Fields.withDefault_filter rfl (kept_string s.username),
    Fields.withDefault_filter rfl (kept_string s.password),
    Fields.withDefault_filter rfl (kept_uint32 s.flowPollFrequency)]
  rfl

theorem SyncSettings.decode_keepMembers (s : SyncSettings) :
    decode ((encode s).inJson.keepMembers has) = some (s.keeping has) := by
  refine BackboneLab.decode_keepMembers (inJson_object _) (fun _ => rfl) (List.Sublist.refl _)
    (by decide) ?_
  rw [Fields.withDefault_filter rfl (kept_uint64 s.pollIntervalMillis),
    Fields.withDefault_filter rfl (kept_option kept_uint64 (fun _ => nofun) s.pollTimeoutSeconds),
    Fields.withDefault_filter rfl (kept_uint16 s.triggerPort),
    Fields.withDefault_filter rfl (kept_uint16 s.bundlePort),
    Fields.withDefault_filter rfl s.trafficTool.kept]
  rfl

theorem QuaggaSettings.decode_keepMembers (s : QuaggaSettings) :
    decode ((encode s).inJson.keepMembers has) = some (s.keeping has) := by
  refine BackboneLab.decode_keepMembers (inJson_object _) (fun _ => rfl) (List.Sublist.refl _)
    (by decide) ?_
  rw [Fields.withDefault_filter rfl (kept_path s.binDir),
    Fields.withDefault_filter rfl (kept_path s.runDir)]
  rfl

end

/-! ## Documents -/

namespace Settings

/-- The settings read from the tree of a document with some of its keys. -/
theorem decode_cut (k : SettingsKeys) (s : Settings) :
    decode (k.cut (encode s).inJson) = some (s.keeping k) := by
  have htree : (encode s).inJson.mapMembers (fun name => Datum.keepMembers (k.hasKey name)) =
      .object _ := (congrArg _ (inJson_object _)).trans (Datum.mapMembers_object _)
  have hreserved : decode ((encode s.reserved).inJson.keepMembers (k.hasKey "reserved")) =
      some s.reserved := kept_list fun r _ => r.kept
  refine decode_keepMembers htree (fun _ => rfl) (List.Sublist.refl _) (by decide) ?_
  rw [Fields.withDefault_filter rfl s.bgp.decode_keepMembers,
    Fields.withDefault_filter rfl s.speaker.decode_keepMembers,
    Fields.withDefault_filter rfl s.controller.decode_keepMembers,
    Fields.withDefault_filter rfl hreserved,
    Fields.withDefault_filter rfl s.sync.decode_keepMembers,
    Fields.withDefault_filter rfl s.quagga.decode_keepMembers]
  rfl

theorem SectionAgrees.decode_eq {α : Type} [Wire α] {name : String} {build : Fields → Option α}
    {d d' : Datum} (h : SectionAgrees name d d') (hname : name ≠ "reserved")
    (hdecode : ∀ d, (decode d : Option α) = (Fields.ofDatum? (valueNames name) d).bind build) :
    (decode d : Option α) = decode d' := by
  rw [SectionAgrees, if_neg hname] at h
  exact h.decode_eq_of_same hdecode

theorem SectionAgrees.decode_reserved_eq {d d' : Datum} (h : SectionAgrees "reserved" d d') :
    (decode d : Option (List ReservedIndex)) = decode d' := by
  rw [SectionAgrees, if_pos rfl] at h
  exact h.decode_eq fun x x' hx => hx.decode_eq_of_same fun _ => rfl

/-- Settings are read alike from trees that agree but for unknown keys. -/
theorem Agree.decode_eq {d d' : Datum} (h : Agree d d') : (decode d : Option Settings) = decode d' := by
  refine Datum.AgreeOn.decode_eq (fun _ => rfl) sectionAgrees_refl (fun f f' hf => ?_) h
  rw [hf.withDefault_eq "bgp" _ fun _ _ h => h.decode_eq (by decide) fun _ => rfl,
    hf.withDefault_eq "speaker" _ fun _ _ h => h.decode_eq (by decide) fun _ => rfl,
    hf.withDefault_eq "controller" _ fun _ _ h => h.decode_eq (by decide) fun _ => rfl,
    hf.withDefault_eq "reserved" _ fun _ _ h => h.decode_reserved_eq,
    hf.withDefault_eq "sync" _ fun _ _ h => h.decode_eq (by decide) fun _ => rfl,
    hf.withDefault_eq "quagga" _ fun _ _ h => h.decode_eq (by decide) fun _ => rfl]

end Settings

/-- No key is taken out. -/
def SettingsKeys.all : SettingsKeys := ⟨fun _ => true, fun _ _ => true⟩

theorem Settings.keeping_all (s : Settings) : s.keeping .all = s := rfl

theorem SettingsKeys.inJson_cut (k : SettingsKeys) {d : Datum} (h : d.inJson = d) :
    (k.cut d).inJson = k.cut d :=
  Datum.inJson_keepMembers (Datum.inJson_mapMembers (fun _ _ => Datum.inJson_keepMembers) h)

/-- The document of any settings gives them back. If any of its sections and any values of its sections
are taken out, the tree that is left has a document, and each of its documents gives the settings with
the defaults in the place of what was taken out, and of nothing else. It does so with whatever unknown
keys at the top, in the sections and in the rules for reserved indices. Unknown keys in these places make
no difference to any document, also to one from which no settings are read. -/
theorem settings_from_keys :
    (∀ s : Settings, ReadBack s ∧ Json.read? (toJson s).toList = some (encode s).inJson ∧
      ∀ k : SettingsKeys,
        Json.read? (Json.compact (k.cut (encode s).inJson)) = some (k.cut (encode s).inJson) ∧
        ∀ (text : String) (d : Datum), Json.read? text.toList = some d →
          Settings.Agree (k.cut (encode s).inJson) d → ofJson? text = some (s.keeping k)) ∧
      ∀ (text text' : String) (d d' : Datum), Json.read? text.toList = some d →
        Json.read? text'.toList = some d' → Settings.Agree d d' →
        (ofJson? text : Option Settings) = ofJson? text' := by
  have hread : ∀ (text : String) (d : Datum), Json.read? text.toList = some d →
      (ofJson? text : Option Settings) = decode d := fun text d h => by
    rw [ofJson?, h]
    rfl
  have hcompact : ∀ d : Datum, Json.read? (Json.compact d) = some d.inJson := Json.read?_compact
  refine ⟨fun s => ⟨?_, ?_, fun k => ⟨?_, fun text d htext hd => ?_⟩⟩, ?_⟩
  · have hcut : SettingsKeys.all.cut (encode s).inJson = (encode s).inJson := rfl
    rw [readBack_iff_kept, Kept, ← hcut, s.decode_cut, s.keeping_all]
  · rw [toJson, String.toList_ofList, hcompact]
  · rw [hcompact, k.inJson_cut (Datum.inJson_inJson _)]
  · rw [hread text d htext, ← hd.decode_eq, s.decode_cut]
  · intro text text' d d' htext htext' hd
    rw [hread text d htext, hread text' d' htext', hd.decode_eq]

/-- The hold timer and the rules are left of these settings, and three unknown keys are added. -/
theorem settings_from_keys_hold :
    let s : Settings :=
      { bgp := { password := "secret", hold := 30 }, reserved := [⟨2, .fixed 9⟩],
        sync := { triggerPort := 7 } }
    let k : SettingsKeys := ⟨fun name => name ∈ ["bgp", "reserved"], fun _ key => key = "hold"⟩
    let text := "\x7b\"later\":null,\"bgp\":\x7b\"hold\":30,\"grace\":[1]\x7d,\"reserved\":[" ++
      "\x7b\"index\":2,\"note\":\"x\",\"substitute\":\x7b\"fixed\":9\x7d\x7d]\x7d"
    ∃ d, Json.read? text.toList = some d ∧ Settings.Agree (k.cut (encode s).inJson) d ∧
      ofJson? text = some ({ bgp := { hold := 30 }, reserved := [⟨2, .fixed 9⟩] } : Settings) := by
  intro s k text
  let bgp : Datum := .object [("hold", .ofNat 30), ("grace", .list [.ofNat 1])]
  let rule : Datum := .object
    [("index", .ofNat 2), ("note", .ofString "x"), ("substitute", .object [("fixed", .ofNat 9)])]
  let d : Datum := .object [("later", .null), ("bgp", bgp), ("reserved", .list [rule])]
  have htext : Json.read? text.toList = some d := by
    have hcompact : text.toList = Json.compact d := by decide +kernel
    rw [hcompact, Json.read?_compact]
    rfl
  have hbgp : Settings.SectionAgrees "bgp" (.object [("hold", .ofNat 30)]) bgp :=
    .insert (fun _ _ => rfl) (by decide) [("hold", .ofNat 30)] [] _
  have hrule : Datum.AgreeOn (Settings.valueNames "reserved") (fun _ => Eq)
      (.object [("index", .ofNat 2), ("substitute", .object [("fixed", .ofNat 9)])]) rule :=
    .insert (fun _ _ => rfl) (by decide) [("index", .ofNat 2)] _ _
  have hd : Settings.Agree (k.cut (encode s).inJson) d := by
    have hleft : k.cut (encode s).inJson = .object
        [("bgp", .object [("hold", .ofNat 30)]), ("reserved", .list
          [.object [("index", .ofNat 2), ("substitute", .object [("fixed", .ofNat 9)])]])] := rfl
    have hreserved : Settings.SectionAgrees "reserved" _ (.list [rule]) := .list (.cons hrule .nil)
    rw [hleft]
    exact .object (.cons ⟨rfl, hbgp⟩ (.cons ⟨rfl, hreserved⟩ .nil))
  exact ⟨d, htext, hd, ((settings_from_keys.1 s).2.2 k).2 text d htext hd⟩

end BackboneLab
