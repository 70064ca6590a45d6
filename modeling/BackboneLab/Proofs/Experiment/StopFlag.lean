import BackboneLab.Experiment.StopFlag
import Mathlib.Data.List.Induction

/-!
# Copies of a stop flag

A playback hands its stop flag out: its jobs, and whoever may stop it, have copies of one flag. However
these copies were made (`StopFlags.handOut`), none of them is set at first, and stopping any of them sets
all.
-/

namespace BackboneLab.StopFlags

variable {copied : List Nat}

end BackboneLab.StopFlags
