/-!
# Stop flags

A stop flag is handed out in copies that share one cell: stopping one copy stops all of them, and
nothing clears a cell again. `StopFlags` is a row of flags with the cells behind them.
-/

namespace BackboneLab

/-- A row of stop flags. -/
structure StopFlags where
  /-- Whether each cell is set. Cells are never taken away, so that their numbers stay. -/
  cells : List Bool
  /-- The number of the cell behind every flag. -/
  flags : List Nat
deriving DecidableEq, Inhabited

namespace StopFlags

/-- A single flag that is not set. -/
def single : StopFlags := ⟨[false], [0]⟩

/-- The number of flags. -/
def size (s : StopFlags) : Nat := s.flags.length

/-- Whether the cell with the given number is set. -/
def isSet (s : StopFlags) (cell : Nat) : Bool := s.cells.getD cell false

/-- Whether the flag at a position is set. -/
def isStopped (s : StopFlags) (k : Nat) : Bool :=
  match s.flags[k]? with
  | some cell => s.isSet cell
  | none => false

/-- All flags in order. -/
def states (s : StopFlags) : List Bool := s.flags.map s.isSet

/-- Appends a flag with a cell of its own. -/
def fresh (s : StopFlags) : StopFlags := ⟨s.cells ++ [false], s.flags ++ [s.cells.length]⟩

/-- Appends a copy of a flag. -/
def copy (s : StopFlags) (k : Nat) : StopFlags := ⟨s.cells, s.flags ++ s.flags[k]?.toList⟩

/-- Sets a flag and thereby all its copies. -/
def stop (s : StopFlags) (k : Nat) : StopFlags :=
  match s.flags[k]? with
  | some cell => ⟨s.cells.set cell true, s.flags⟩
  | none => s

/-- Takes a flag away, unless it is the last one. -/
def drop (s : StopFlags) (k : Nat) : StopFlags :=
  if 1 < s.size then ⟨s.cells, s.flags.eraseIdx k⟩ else s

end StopFlags

end BackboneLab
