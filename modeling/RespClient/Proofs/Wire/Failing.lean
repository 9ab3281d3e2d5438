import RespClient.Proofs.Wire.Congruence
import RespClient.Pipe.Connection

/-!
# What a link fails with

A read or a write fails because the connection was lost, because it took too long, or
because what was read makes no sense. Decoding adds nothing to this, so every failure of
an exchange says that its link is of no further use.
-/

namespace RespClient

open Transport

/-- Reads and writes fail only in ways that break the link. -/
class Transport.Fragile (τ : Type) [Transport τ] : Prop where
  readLine_error {t t' : τ} {e : Failure} : readLine t = (.error e, t') → e.breaksLink = true
  readBytes_error {t t' : τ} {n : Nat} {e : Failure} :
    readBytes n t = (.error e, t') → e.breaksLink = true
  write_error {t t' : τ} {bytes : Bytes} {e : Failure} :
    write bytes t = (.error e, t') → e.breaksLink = true

/-! ## The two kinds of links -/

namespace MemoryLink

theorem exhausted_eq_error {α : Type} {l : MemoryLink} {e : Failure}
    (h : (l.exhausted : Outcome α) = .error e) : e.breaksLink = true := by
  unfold exhausted at h
  split at h
  · cases h
    rfl
  · cases h

instance : Fragile MemoryLink where
  readLine_error {l l' e} h := by
    have h : MemoryLink.readLine l = (.error e, l') := h
    unfold MemoryLink.readLine at h
    split at h
    · cases h
      rfl
    · split at h
      · exact exhausted_eq_error (Prod.mk.inj h).1
      · dsimp only at h
        split at h
        · cases h
        · cases h
          rfl
  readBytes_error {l l' n e} h := by
    have h : MemoryLink.readBytes n l = (.error e, l') := h
    unfold MemoryLink.readBytes at h
    split at h
    · cases h
      rfl
    · dsimp only at h
      split at h
      · exact exhausted_eq_error (Prod.mk.inj h).1
      · cases h
  write_error {l l' bytes e} h := by
    have h : MemoryLink.write bytes l = (.error e, l') := h
    unfold MemoryLink.write at h
    split at h
    · cases h
    · cases h
      rfl

end MemoryLink

namespace Connection

instance : Fragile Connection where
  readLine_error {c c' e} h := by
    have h : Connection.readLine c = (.error e, c') := h
    unfold Connection.readLine at h
    split at h
    · cases h
      rfl
    · split at h
      · split at h
        · cases h
        · cases h
          rfl
      all_goals
        cases h
        try rfl
  readBytes_error {c c' n e} h := by
    have h : Connection.readBytes n c = (.error e, c') := h
    unfold Connection.readBytes at h
    split at h
    · cases h
      rfl
    · split at h
      · cases h
      · split at h
        all_goals
          cases h
          try rfl
  write_error {c c' bytes e} h := by
    have h : Connection.write bytes c = (.error e, c') := h
    unfold Connection.write at h
    split at h
    · cases h
      rfl
    · dsimp only at h
      split at h
      all_goals
        cases h
        try rfl

end Connection

/-! ## Decoding -/

namespace Decoder

open RespClient.Action

variable {τ α β : Type}

/-- An action that fails only in ways that break its link. -/
def Breaking (x : Action τ α) : Prop :=
  ∀ ⦃t e t'⦄, x t = (.error e, t') → e.breaksLink = true

theorem Breaking.bind {x : Action τ α} {f : α → Action τ β} (hx : Breaking x)
    (hf : ∀ a, Breaking (f a)) : Breaking (x >>= f) := by
  intro t e t' h
  rcases bind_eq_error.mp h with h | ⟨a, s, -, h⟩
  · exact hx h
  · exact hf a h

variable [Transport τ] [Fragile τ]

theorem Breaking.congruence : Congruence fun α (x : Action τ α) (_ : Action τ α) => Breaking x where
  give a := by
    rintro t e t' ⟨⟩
  bind hx hf := hx.bind hf
  stall := by
    intro α t e t' h
    cases h
  refuse flaw payload := by
    intro t e t' h
    cases h
    rfl
  readLine := fun _ _ _ h => Fragile.readLine_error h
  readBytes _ := fun _ _ _ h => Fragile.readBytes_error h

theorem Breaking.readFrame (d : Decoder) (depth : Nat) :
    Breaking (d.readFrame depth : Action τ Frame) :=
  Breaking.congruence.frame d depth

/-- A reply that cannot be read breaks the link. -/
theorem Breaking.decode (d : Decoder) : Breaking (d.decode : Action τ Frame) := by
  intro t e t' h
  unfold Decoder.decode orDisconnect at h
  split at h
  · rename_i hread
    cases h
    exact Breaking.readFrame d _ hread
  · rename_i hother
    exact absurd h (hother e t')

end Decoder

end RespClient
