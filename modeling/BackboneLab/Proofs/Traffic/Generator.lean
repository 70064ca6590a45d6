import BackboneLab.Traffic.Generator

/-!
# Servers and ports of traffic commands

A command that sends traffic names the server that it asks for, by an address and a port, and a command
that receives traffic names the port on which it listens. `Generator.server?_clientCommand` and
`Generator.map_port?_receiverCommands` say what the two sides name.
-/

namespace BackboneLab

/-- The receiver that a client asks for. -/
structure Server where
  address : Ipv4
  port : Nat
deriving DecidableEq

namespace HostCommand

/-- The argument behind the first occurrence of an option. -/
def argBehind? (option : String) : List String → Option String
  | a :: b :: args => if a = option then some b else argBehind? option (b :: args)
  | _ => none

/-- The port that a command names. -/
def port? (c : HostCommand) : Option Nat := do readNat? (← argBehind? "-p" c.args).toList

/-- The server that a client command asks for. -/
def server? (c : HostCommand) : Option Server := do
  return ⟨← Ipv4.read? (← argBehind? "-c" c.args).toList, ← c.port?⟩

theorem argBehind?_self (option value : String) (args : List String) :
    argBehind? option (option :: value :: args) = some value := by
  rw [argBehind?, if_pos rfl]

theorem argBehind?_skip {option a : String} (h : a ≠ option) (b : String) (args : List String) :
    argBehind? option (a :: b :: args) = argBehind? option (b :: args) := by
  rw [argBehind?, if_neg h]

end HostCommand

namespace Generator

open HostCommand

/-! ## Clients -/

/-- An address is no option, which is not read as one. -/
theorem address_ne {option : String} (h : Ipv4.read? option.toList = none) (a : Ipv4) :
    a.text ≠ option := by
  intro heq
  have hread := a.read?_text
  rw [heq, h] at hread
  cases hread

/-- A number is no option either. -/
theorem decimal_ne {option : String} (h : readNat? option.toList = none) (n : Nat) :
    decimal n ≠ option := by
  intro heq
  have hread := readNat?_decimal n
  rw [heq, h] at hread
  cases hread

/-- Nor is a bandwidth, which ends in its unit. -/
theorem bandwidthArg_ne {option : String} (h : option.toList.getLast? ≠ some 'M') (b : Bandwidth) :
    bandwidthArg b ≠ option := by
  intro heq
  rw [← heq, bandwidthArg, String.toList_ofList, List.getLast?_concat] at h
  exact h rfl

theorem argBehind?_limitedArgs (source : Ipv4) (step : TrafficStep) :
    argBehind? "-p" (limitedArgs source step) = some (decimal (portFor source)) := by
  rw [limitedArgs, argBehind?_skip (by decide), argBehind?_skip (address_ne (by decide) _),
    argBehind?_skip (by decide), argBehind?_skip (bandwidthArg_ne (by decide) _), argBehind?_self]

variable {g : Generator}

/-- A client asks for the port of its source. -/
theorem port?_clientCommand (hg : g ≠ .ditg) (source : Ipv4) (step : TrafficStep) :
    (clientCommand source step g).port? = some (portFor source) := by
  have hport : argBehind? "-p" (clientCommand source step g).args = some (decimal (portFor source)) := by
    cases g with
    | iperf3 => exact argBehind?_limitedArgs source step
    | iperf2 => exact (argBehind?_skip (by decide) _ _).trans (argBehind?_limitedArgs source step)
    | ditg => exact absurd rfl hg
  rw [HostCommand.port?, hport]
  exact readNat?_decimal _

/-- A client asks for the server at its destination that listens on the port of its source. -/
theorem server?_clientCommand (hg : g ≠ .ditg) (source : Ipv4) (step : TrafficStep) :
    (clientCommand source step g).server? = some ⟨step.destination, portFor source⟩ := by
  have haddress : argBehind? "-c" (clientCommand source step g).args = some step.destination.text := by
    cases g with
    | iperf3 => exact argBehind?_self ..
    | iperf2 => exact (argBehind?_skip (by decide) _ _).trans (argBehind?_self ..)
    | ditg => exact absurd rfl hg
  rw [HostCommand.server?, haddress, port?_clientCommand hg]
  simp only [bind, Option.bind_some, Ipv4.read?_text]
  rfl

/-! ## Receivers -/

/-- A host listens on the ports of all other hosts, in their order. -/
theorem map_port?_receiverCommands (hg : g ≠ .ditg) (destination : Ipv4) (hosts : List Ipv4) :
    (receiverCommands destination hosts g).map HostCommand.port? =
      ((hosts.filter (· ≠ destination)).map portFor).map some := by
  have hread : ∀ source, (readNat? (decimal (portFor source)).toList) = some (portFor source) :=
    fun source => readNat?_decimal _
  cases g with
  | iperf3 =>
    rw [receiverCommands, List.map_map, List.map_map]
    exact List.map_congr_left fun source _ => hread source
  | iperf2 =>
    rw [receiverCommands, List.map_map, List.map_map]
    exact List.map_congr_left fun source _ => hread source
  | ditg => exact absurd rfl hg

end Generator

end BackboneLab
