import BackboneLab.Experiment.Bundle
import BackboneLab.Experiment.Fault

/-!
# Transfer of bundles

A bundle travels as a JSON document over one connection, which ends with the document. The receiver reads
pieces until the connection ends, and then reads the document.
-/

namespace BackboneLab

/-- Whether datagrams and connections get through. -/
inductive Network
  | up
  | down
deriving DecidableEq, Inhabited

/-- Sends something over the network. -/
def Network.carry {α : Type} (n : Network) (x : α) : Except ExperimentFault α :=
  match n with
  | .up => .ok x
  | .down => .error .inaccessible

/-- The text of a list of bytes, if they are one. -/
def textOfBytes? (bytes : List UInt8) : Option String := String.fromUTF8? ⟨bytes.toArray⟩

/-- The pieces of a list of bytes, all but the last of them of the given size. No piece is empty. -/
def piecesOf (size : Nat) : List UInt8 → List (List UInt8)
  | [] => []
  | b :: bs => (b :: bs.take (size - 1)) :: piecesOf size (bs.drop (size - 1))
termination_by bytes => bytes.length
decreasing_by simp only [List.length_drop, List.length_cons]; omega

namespace Bundle

/-- The bundle in a document. -/
def ofDocument (document : String) : Except ExperimentFault Bundle :=
  match ofJson? document with
  | some b => .ok b
  | none => .error .invalidBundle

/-- The bundle that arrived in pieces before the connection ended. -/
def ofPieces (pieces : List (List UInt8)) : Except ExperimentFault Bundle :=
  match textOfBytes? pieces.flatten with
  | some document => ofDocument document
  | none => .error .inaccessible

/-- The bytes that are sent for a bundle. -/
def bytes (b : Bundle) : List UInt8 := (toJson b).toUTF8.data.toList

end Bundle

end BackboneLab
