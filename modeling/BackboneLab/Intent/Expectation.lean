import BackboneLab.Configuration.FileSet
import BackboneLab.Text.Blank

/-!
# Expected intents

How many intents the controller installs once all networks are announced: six for every peer, and one
for every ordered pair of networks of two different peers. Both numbers are read from the written
configuration.
-/

namespace BackboneLab

/-- The intents of a session: three in each of two directions. -/
def intentsPerPeer : Nat := 2 * 3

/-- The number of intents for so many peers and the numbers of networks that they announce. -/
def expectedIntents (peers : Nat) (networks : List Nat) : Nat :=
  let all := networks.foldr (· + ·) 0
  peers * intentsPerPeer + networks.foldr (fun n pairs => n * (all - n) + pairs) 0

/-- What follows a word at the front of a text. -/
def afterWord? (word cs : List Char) : Option (List Char) :=
  if word.isPrefixOf cs then some (cs.drop word.length) else none

/-- Whether a line announces a network: after any blanks the word `network`, at least one blank, and
something else. A line that is commented out starts with another word. -/
def isNetworkLine (line : List Char) : Bool :=
  match afterWord? "network".toList (line.dropWhile Text.isBlank) with
  | some (c :: rest) => Text.isBlank c && (rest.dropWhile Text.isBlank) != []
  | _ => false

/-- The number of networks that a configuration announces. -/
def countNetworks (config : String) : Nat := (Text.lines config.toList).countP isNetworkLine

/-- The numbers on which the expected intents depend. -/
structure IntentExpectation where
  peers : Nat
  /-- The number of networks of every router that announces any. -/
  networks : List Nat
deriving DecidableEq, Inhabited

namespace IntentExpectation

/-- The expectation for a controller's configuration and the configurations of routing daemons. -/
def ofConfigs (c : NetworkConfig) (configs : List String) : Except Fault IntentExpectation :=
  match c.peers? with
  | some peers => .ok ⟨peers.length, (configs.map countNetworks).filter (0 < ·)⟩
  | none => .error .missingPeers

/-- The number of expected intents. -/
def count (e : IntentExpectation) : Nat := expectedIntents e.peers e.networks

/-- Whether a file holds the configuration of a routing daemon that is counted. -/
def isDaemonConfigFile (name : String) : Bool :=
  let stem := "quagga".toList
  let ending := ".conf".toList
  let cs := name.toList
  stem.isPrefixOf cs && ending.isSuffixOf (cs.drop stem.length) && !cs.contains '\n'

end IntentExpectation

end BackboneLab
