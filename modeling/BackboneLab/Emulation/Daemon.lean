import BackboneLab.Emulation.Network

/-!
# Routing daemons

The two daemons that run on every router and on the speaker, and the commands that start and stop one.
A daemon is stopped through the file in which it keeps the number of its process.
-/

namespace BackboneLab

/-- A kind of routing daemon. -/
inductive DaemonKind
  /-- Keeps the routing table. -/
  | zebra
  /-- Talks to the neighbors. -/
  | bgpd
deriving DecidableEq, Inhabited

namespace DaemonKind

/-- The name of the program. -/
def binary : DaemonKind → String
  | .zebra => "zebra"
  | .bgpd => "bgpd"

instance : Wire DaemonKind where
  encode
    | .zebra => encode "Zebra"
    | .bgpd => encode "Bgpd"
  decode d := do
    let (name, content) ← choice? d
    if isNoContent content then
      match name with
      | "Zebra" => some .zebra
      | "Bgpd" => some .bgpd
      | _ => none
    else none

end DaemonKind

/-- A routing daemon of a router. -/
structure Daemon where
  /-- The name of the router. -/
  router : String
  kind : DaemonKind
  program : Path
  config : Path
  /-- The socket that the two daemons of a router share. -/
  apiSocket : Path
  /-- The file with the number of the process. -/
  pidFile : Path
  /-- Whether the router has a network namespace of its own. -/
  inNamespace : Bool
deriving DecidableEq, Inhabited

namespace Daemon

/-- The arguments with which the daemon goes into the background. -/
def args (d : Daemon) : List String :=
  ["-d", "-f", d.config.text, "-z", d.apiSocket.text, "-i", d.pidFile.text]

/-- The command that starts the daemon. -/
def startCommand (d : Daemon) : HostCommand := ⟨d.program.text, d.args⟩

/-- The command that stops the daemon. -/
def stopCommand (d : Daemon) : HostCommand := ⟨"pkill", ["-F", d.pidFile.text]⟩

/-- The daemon of the given kind on a router. -/
def ofRouter (q : QuaggaSettings) (r : Router) (kind : DaemonKind) : Daemon where
  router := r.name
  kind
  program := q.binDir.join kind.binary
  config :=
    match kind with
    | .zebra => r.zebraConfig
    | .bgpd => r.bgpdConfig
  apiSocket := q.runDir.join ("zebra" ++ r.name ++ ".api")
  pidFile := q.runDir.join (kind.binary ++ r.name ++ ".pid")
  inNamespace := r.inNamespace

instance : Wire Daemon where
  encode d := .object
    [("router", encode d.router), ("kind", encode d.kind), ("program", encode d.program),
      ("config", encode d.config), ("api_socket", encode d.apiSocket), ("pid_file", encode d.pidFile),
      ("in_namespace", encode d.inNamespace)]
  decode t := do
    let f ← Fields.ofDatum?
      ["router", "kind", "program", "config", "api_socket", "pid_file", "in_namespace"] t
    return ⟨← f.required "router", ← f.required "kind", ← f.required "program",
      ← f.required "config", ← f.required "api_socket", ← f.required "pid_file",
      ← f.required "in_namespace"⟩

end Daemon

/-- The daemons of a network in the order in which they are started: the two of every router, and those
of the speaker last. -/
def EmulatedNetwork.daemons (n : EmulatedNetwork) (q : QuaggaSettings) : List Daemon :=
  (n.routers ++ [n.speaker]).flatMap fun r => [.ofRouter q r .zebra, .ofRouter q r .bgpd]

end BackboneLab
