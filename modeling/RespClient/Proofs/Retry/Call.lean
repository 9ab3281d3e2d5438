import RespClient.Proofs.Action
import RespClient.Retry.Call

/-!
# How a call goes

A call is a first try, and after a failure that is worth another try a pause and then a call
with one try less. So what a call costs is at most what one try costs, once for each try that
the policy allows, and its value is the value of one of its tries.
-/

namespace RespClient

/-- Waiting keeps the deadline, and comes to its end if there is none. -/
theorem Clock.wait_deadline (millis : Nat) (c : Clock) :
    (wait millis c).2.deadline = c.deadline ∧
      (c.deadline = none → (wait millis c).1 = .ok ()) := by
  unfold wait waitUntil
  split
  · rename_i hbeyond
    refine ⟨rfl, fun hnone => ?_⟩
    rw [isBeyond, hnone] at hbeyond
    cases hbeyond
  · exact ⟨rfl, fun _ => rfl⟩

namespace RetryPolicy

open RespClient.Action

variable {σ α : Type} [Timed σ] {p : RetryPolicy} {heedful : Bool} {op : Nat → Action σ α}
  {left failures : Nat} {s s' : σ} {out : Outcome α}

/-- The tries of a call, one after another. So many were made before it, and so many may
follow its first one. -/
inductive Calls (p : RetryPolicy) (heedful : Bool) (op : Nat → Action σ α) :
    Nat → Nat → σ → Outcome α → σ → Prop
  | givenUp {left failures : Nat} {s : σ} (hheedful : heedful = true)
      (hcancel : (Timed.clock s).isCancelled = true) :
      Calls p heedful op left failures s (.error .cancelled) s
  /-- The try succeeds, or fails and is the last one. -/
  | last {left failures : Nat} {s s' : σ} {out : Outcome α}
      (hcancel : (heedful && (Timed.clock s).isCancelled) = false)
      (htry : op failures s = (out, s'))
      (hlast : ∀ e, out = .error e →
        (p.recordFailure failures e (Timed.words s')).1 = none ∨ left = 0) :
      Calls p heedful op left failures s out s'
  | again {left failures more delay : Nat} {s s₁ s₂ s' : σ} {e : Failure} {words : WordSource}
      {out : Outcome α} (hcancel : (heedful && (Timed.clock s).isCancelled) = false)
      (htry : op failures s = (.error e, s₁))
      (hrecord : p.recordFailure failures e (Timed.words s₁) = (some delay, more, words))
      (hpause : pause heedful delay (Timed.setWords words s₁) = (.ok (), s₂))
      (h : Calls p heedful op left more s₂ out s') :
      Calls p heedful op (left + 1) failures s out s'
  /-- The pause before the next try does not come to its end. -/
  | interrupted {left failures more delay : Nat} {s s₁ s₂ : σ} {e : Failure}
      {words : WordSource} {stop : Option Failure}
      (hcancel : (heedful && (Timed.clock s).isCancelled) = false)
      (htry : op failures s = (.error e, s₁))
      (hrecord : p.recordFailure failures e (Timed.words s₁) = (some delay, more, words))
      (hpause : pause heedful delay (Timed.setWords words s₁) = (stopped stop, s₂)) :
      Calls p heedful op (left + 1) failures s (stopped stop) s₂

theorem callFrom_calls (h : callFrom p heedful op left failures s = (out, s')) :
    Calls p heedful op left failures s out s' := by
  induction left using Nat.strongRecOn generalizing failures s with
  | ind left ih =>
      rw [callFrom] at h
      split at h
      · rename_i hcancel
        obtain ⟨hheedful, hcancel⟩ := Bool.and_eq_true_iff.mp hcancel
        cases h
        exact .givenUp hheedful hcancel
      · rename_i hcancel
        have hcancel := Bool.eq_false_iff.mpr hcancel
        rcases htry : op failures s with ⟨tried, s₁⟩
        rw [htry] at h
        cases tried with
        | ok a =>
            cases h
            exact .last hcancel htry (by rintro e ⟨⟩)
        | stalled =>
            cases h
            exact .last hcancel htry (by rintro e ⟨⟩)
        | error e =>
            rcases hrecord : p.recordFailure failures e (Timed.words s₁) with
              ⟨_ | delay, more, words⟩
            · simp only [hrecord] at h
              cases h
              refine .last hcancel htry fun e' he' => .inl ?_
              cases he'
              rw [hrecord]
            · cases left with
              | zero =>
                  simp only [hrecord] at h
                  cases h
                  exact .last hcancel htry fun _ _ => .inr rfl
              | succ left =>
                  simp only [hrecord] at h
                  rcases hpause : pause heedful delay (Timed.setWords words s₁) with ⟨paused, s₂⟩
                  rw [hpause] at h
                  cases paused with
                  | ok u =>
                      exact .again hcancel htry hrecord hpause (ih left (Nat.lt_succ_self left) h)
                  | error e' =>
                      cases h
                      have hpause : _ = (stopped (some e'), s') := hpause
                      exact .interrupted hcancel htry hrecord hpause
                  | stalled =>
                      cases h
                      have hpause : _ = (stopped none, s') := hpause
                      exact .interrupted hcancel htry hrecord hpause

/-- Tries that may follow one another so are a call. -/
theorem callFrom_of_calls (h : Calls p heedful op left failures s out s') :
    callFrom p heedful op left failures s = (out, s') := by
  induction h with
  | givenUp hheedful hcancel =>
      rw [callFrom, hheedful, hcancel]
      rfl
  | @last left failures s s' out hcancel htry hlast =>
      rw [callFrom, hcancel]
      cases out with
      | ok a => simp only [htry]; rfl
      | stalled => simp only [htry]; rfl
      | error e =>
          rcases hrecord : p.recordFailure failures e (Timed.words s') with
            ⟨_ | delay, more, words⟩
          · simp only [htry, hrecord]
            rfl
          · obtain rfl : left = 0 := (hlast e rfl).resolve_left (by rw [hrecord]; rintro ⟨⟩)
            simp only [htry, hrecord]
            rfl
  | again hcancel htry hrecord hpause _ ih =>
      rw [callFrom, hcancel]
      simp only [htry, hrecord, hpause]
      exact ih
  | @interrupted _ _ _ _ _ _ _ _ _ stop hcancel htry hrecord hpause =>
      rw [callFrom, hcancel]
      simp only [htry, hrecord, hpause]
      cases stop with
      | none => rfl
      | some e => rfl

namespace Calls

/-- What a call gives, one of its tries gave, from where the tries and pauses before it led. -/
theorem of_ok_from {P : σ → Prop} {a : α} (h : Calls p heedful op left failures s (.ok a) s')
    (hs : P s) (htry : ∀ {n s e t}, P s → op n s = (.error e, t) → P t)
    (hpause : ∀ {delay words s t}, P s →
      pause heedful delay (Timed.setWords words s) = (.ok (), t) → P t) :
    ∃ n s₁, P s₁ ∧ op n s₁ = (.ok a, s') := by
  generalize hout : Outcome.ok a = out at h
  induction h with
  | givenUp => cases hout
  | last _ h =>
      subst hout
      exact ⟨_, _, hs, h⟩
  | again _ h _ hp _ ih => exact ih (hpause (htry hs h) hp) hout
  | interrupted => exact absurd hout.symm stopped_ne_ok

theorem of_ok {a : α} (h : Calls p heedful op left failures s (.ok a) s') :
    ∃ n s₁, op n s₁ = (.ok a, s') := by
  obtain ⟨n, s₁, -, htry⟩ := h.of_ok_from (P := fun _ => True) trivial (fun _ _ => trivial)
    fun _ _ => trivial
  exact ⟨n, s₁, htry⟩

/-- A call costs at most what one try costs, once for each try, and pauses are free. -/
theorem costs {P : σ → Prop} {R : Nat → σ → σ → Prop} {cost : Nat}
    (h : Calls p heedful op left failures s out s') (hs : P s) (hrefl : ∀ s, R 0 s s)
    (htrans : ∀ {m n s t u}, R m s t → R n t u → R (m + n) s u)
    (htry : ∀ {n s out t}, P s → op n s = (out, t) → P t ∧ ∃ k, k ≤ cost ∧ R k s t)
    (hpause : ∀ {delay words s out t}, P s →
      pause heedful delay (Timed.setWords words s) = (out, t) → P t ∧ R 0 s t) :
    ∃ k, k ≤ (left + 1) * cost ∧ R k s s' := by
  induction h with
  | givenUp => exact ⟨0, Nat.zero_le _, hrefl _⟩
  | last _ h =>
      obtain ⟨-, k, hk, hR⟩ := htry hs h
      exact ⟨k, Nat.le_trans hk (Nat.le_mul_of_pos_left cost (Nat.succ_pos _)), hR⟩
  | again _ h _ hp _ ih =>
      obtain ⟨hs₁, k, hk, hR⟩ := htry hs h
      obtain ⟨hs₂, hR'⟩ := hpause hs₁ hp
      obtain ⟨m, hm, hR''⟩ := ih hs₂
      refine ⟨k + 0 + m, ?_, htrans (htrans hR hR') hR''⟩
      rw [Nat.succ_mul _ cost]
      omega
  | interrupted _ h _ hp =>
      obtain ⟨hs₁, k, hk, hR⟩ := htry hs h
      obtain ⟨-, hR'⟩ := hpause hs₁ hp
      exact ⟨k + 0, Nat.le_trans hk (Nat.le_mul_of_pos_left cost (Nat.succ_pos _)), htrans hR hR'⟩

end Calls

/-- A call ends if its tries and its pauses do. -/
theorem ends_callFrom {P : σ → Prop} (hop : ∀ n, Ends P (op n))
    (hpause : ∀ delay words s, P s → EndsAt P (pause heedful delay) (Timed.setWords words s)) :
    Ends P (callFrom p heedful op left failures) := by
  intro s hs
  rcases h : callFrom p heedful op left failures s with ⟨out, s'⟩
  rw [EndsAt, h]
  have hcalls := callFrom_calls h
  clear h
  induction hcalls with
  | givenUp => exact ⟨by rintro ⟨⟩, hs⟩
  | last _ htry => exact (hop _ hs).outcome htry
  | again _ htry _ hp _ ih =>
      have hs₁ := ((hop _ hs).outcome htry).2
      exact ih ((hpause _ _ _ hs₁).outcome hp).2
  | @interrupted _ _ _ _ _ _ _ _ _ stop _ htry _ hp =>
      have hs₁ := ((hop _ hs).outcome htry).2
      obtain ⟨hends, hs₂⟩ := (hpause _ _ _ hs₁).outcome hp
      cases stop with
      | none => exact absurd rfl hends
      | some e => exact ⟨by rintro ⟨⟩, hs₂⟩

end RetryPolicy

end RespClient
