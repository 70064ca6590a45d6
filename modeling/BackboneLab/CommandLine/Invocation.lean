import BackboneLab.Settings.Deployment

/-!
# Invocations

What the command line can ask for: a command with its own arguments, and values that take the place of
settings.
-/

namespace BackboneLab

/-- Values of the command line that take the place of settings. -/
structure Overrides where
  /-- The file with the settings. -/
  settingsFile : Option Path
  controller : Option String
  controllerPort : Option UInt16
  tool : Option Generator
  /-- The seconds after which a wait for the intents is given up. -/
  timeout : Option UInt64
deriving DecidableEq, Inhabited

/-- Puts the values of the command line into settings. -/
def Overrides.apply (o : Overrides) (s : Settings) : Settings :=
  { s with
    controller := { s.controller with
      restHost := o.controller.getD s.controller.restHost
      restPort := o.controllerPort.getD s.controller.restPort }
    sync := { s.sync with
      trafficTool := o.tool.getD s.sync.trafficTool
      pollTimeoutSeconds := o.timeout.or s.sync.pollTimeoutSeconds } }

/-- How an experiment is run from the command line. -/
structure RunOptions where
  configDir : Path
  /-- The file with the bundle. Without it the bundle comes over the network. -/
  bundle : Option Path
  /-- The seconds until the network is up. -/
  startupDelay : UInt64
  /-- Whether commands are carried out on this machine instead of the hosts. -/
  isLocal : Bool
  /-- The command that starts the emulator. -/
  emulator : HostCommand
deriving DecidableEq, Inhabited

/-- What the command line asks for. -/
inductive LabCommand
  /-- Writes the configuration of a topology, or of the built-in one. -/
  | compile (outputDir : Path) (topology : Option Path)
  /-- Tells how many intents a configuration leads to. -/
  | expectedIntents (configDir : Path)
  /-- Waits for the intents of a configuration. -/
  | wait (configDir : Path)
  /-- Sends the trigger. -/
  | trigger (host : Ipv4)
  /-- Sends a bundle to an experiment that waits for it. -/
  | sendBundle (host : Ipv4) (bundle : Path)
  /-- Runs an experiment. -/
  | run (options : RunOptions)
deriving DecidableEq, Inhabited

/-- A command with the values that take the place of settings. -/
structure Invocation where
  overrides : Overrides
  command : LabCommand
deriving DecidableEq, Inhabited

end BackboneLab
