import BackboneLab.Configuration.Display
import BackboneLab.Configuration.Session

/-!
# The files of a configured backbone

`compile` derives the configuration of every routing daemon, the controller's network configuration
and the display hints from a backbone and the settings. `Artifacts.files` gives their texts by the
names of their files.
-/

namespace BackboneLab

/-- The file of the speaker's configuration. -/
def speakerConfigFile : String := "quagga-sdn.conf"

/-- The file of the configuration that all routers share. -/
def zebraConfigFile : String := "zebra.conf"

/-- The file of the controller's network configuration. -/
def networkConfigFile : String := "network-cfg.json"

/-- The file of the display hints. -/
def displayFile : String := "gui.json"

/-- The file of the configuration of the router with the given index. -/
def routerConfigFile (index : Nat) : String := "quagga" ++ decimal index ++ ".conf"

/-- Everything that is derived from a backbone. -/
structure Artifacts where
  plan : AddressPlan
  /-- The configuration of every router, by its index. -/
  routerConfigs : List (Nat × List String)
  speakerConfig : List String
  zebraConfig : List String
  networkConfig : NetworkConfig
  display : DisplayHints

/-- Derives all configurations of a backbone. -/
def compile (t : Topology) (s : Settings) : Except Fault Artifacts := do
  let plan ← AddressPlan.ofTopology t s.reserved
  return {
    plan
    routerConfigs := plan.nodes.map fun n => (n.index, routerConfig n s.bgp)
    speakerConfig := speakerConfig plan.nodes s
    zebraConfig := zebraConfig s.bgp
    networkConfig := .ofNodes plan.nodes s
    display := .ofNodes plan.nodes s }

/-- Files by their names. -/
abbrev FileSet := OrderedMap String String

/-- The texts of all configurations, by the names of their files. -/
def Artifacts.files (a : Artifacts) : FileSet :=
  .ofList (a.routerConfigs.map (fun c => (routerConfigFile c.1, textOfLines c.2)) ++
    [(speakerConfigFile, textOfLines a.speakerConfig),
      (zebraConfigFile, textOfLines a.zebraConfig),
      (networkConfigFile, toPrettyJson a.networkConfig),
      (displayFile, toPrettyJson a.display)])

end BackboneLab
