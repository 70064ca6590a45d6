import BackboneLab.HostCommand

/-!
# Entering hosts

A command for a host is carried out by a command line that first enters the host. The words that enter
it name the host by a placeholder.
-/

namespace BackboneLab

/-- A text with every occurrence of a pattern replaced, from left to right. The number counts the
characters that still belong to the last occurrence. -/
def replaceFrom (pattern replacement : List Char) : Nat → List Char → List Char
  | _, [] => []
  | skip + 1, _ :: cs => replaceFrom pattern replacement skip cs
  | 0, c :: cs =>
    if pattern.isPrefixOf (c :: cs) then
      replacement ++ replaceFrom pattern replacement (pattern.length - 1) cs
    else c :: replaceFrom pattern replacement 0 cs

/-- The words that stand before a command in order to carry it out on a host. -/
structure HostEntry where
  words : List String
deriving DecidableEq, Inhabited

namespace HostEntry

/-- What stands for the name of the host. -/
def placeholder : String := "\x7bhost\x7d"

/-- Enters the network namespace that has the name of the host. -/
def namespaced : HostEntry := ⟨["ip", "netns", "exec", placeholder]⟩

/-- Stays on this machine. -/
def direct : HostEntry := ⟨[]⟩

/-- A word with the name of the host in the place of every placeholder. -/
def fill (host word : String) : String :=
  String.ofList (replaceFrom placeholder.toList host.toList 0 word.toList)

/-- The command line that carries out a command on a host. -/
def argv (e : HostEntry) (host : String) (c : HostCommand) : List String :=
  e.words.map (fill host) ++ c.argv

end HostEntry

end BackboneLab
