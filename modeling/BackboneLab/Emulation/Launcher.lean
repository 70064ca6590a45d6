import BackboneLab.Emulation.Daemon

/-!
# Launching daemons

A daemon is started and stopped by commands on its router. Where they are carried out depends on whether
the router has a network namespace of its own.
-/

namespace BackboneLab

/-- Who carries out a command on a router. -/
inductive Executor
  /-- Enters the namespace of the router first. -/
  | namespaced
  /-- Stays in the namespace of this machine. -/
  | root
deriving DecidableEq, Inhabited

/-- A command on a router. -/
structure RouterCommand where
  executor : Executor
  router : String
  command : HostCommand
deriving DecidableEq, Inhabited

namespace Daemon

/-- Who carries out the commands for a daemon. -/
def executor (d : Daemon) : Executor := if d.inNamespace then .namespaced else .root

/-- What is carried out in order to start a daemon. -/
def starting (d : Daemon) : RouterCommand := ⟨d.executor, d.router, d.startCommand⟩

/-- What is carried out in order to stop a daemon. -/
def stopping (d : Daemon) : RouterCommand := ⟨d.executor, d.router, d.stopCommand⟩

end Daemon

end BackboneLab
