import BackboneLab.Backbone.Abilene
import BackboneLab.Emulation.Tutorial
import BackboneLab.Files.Documents

/-!
# Preparation of an experiment

Before anything is started, the traffic is scheduled and the network is laid out. The tutorial network
finds its configuration in place; for the other one the configuration is compiled and replaces what was
in the directory. The schedule comes first, so that a bundle that cannot be played changes no file.
-/

namespace BackboneLab

/-- Everything that is known before the emulator is started. -/
structure Preparation where
  schedule : Schedule
  network : EmulatedNetwork
  /-- The configuration for the controller. -/
  networkConfig : NetworkConfig

namespace Preparation

/-- The tutorial network and the configuration that is in place for it. -/
def alternate (s : Settings) (confDir : Path) : FileAction (EmulatedNetwork × NetworkConfig) := do
  let network ← MonadExcept.ofExcept (EmulatedNetwork.tutorial s confDir)
  return (network, ← NetworkConfig.ofFile (confDir.join networkConfigFile))

/-- The Abilene network and its configuration, which is written into the directory. -/
def compiled (s : Settings) (confDir : Path) : FileAction (EmulatedNetwork × NetworkConfig) := do
  let artifacts ← MonadExcept.ofExcept (compile Abilene.topology s)
  artifacts.files.writeTo confDir
  let network ← MonadExcept.ofExcept (EmulatedNetwork.ofTopology Abilene.topology s confDir)
  return (network, artifacts.networkConfig)

/-- Prepares what a bundle asks for. -/
def ofBundle (b : Bundle) (s : Settings) (confDir : Path) : FileAction Preparation := do
  let schedule ← MonadExcept.ofExcept b.schedule
  let (network, networkConfig) ←
    if b.useAlternateTopology then alternate s confDir else compiled s confDir
  return ⟨schedule, network, networkConfig⟩

end Preparation

end BackboneLab
