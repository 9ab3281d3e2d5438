import RespClient.Proofs.Retry.Call

/-!
# Calls that keep a log

What a call does in its tries cannot be told from the states before and after it. So each try
may write down what it did, as a function of the state in which it began. The log is kept
beside the state and nothing reads it: without it the call is the call as it was.
-/

namespace RespClient

open RespClient.Action

/-- A state with a log of what was done. -/
structure Logged (σ δ : Type) where
  state : σ
  log : List δ := []

namespace Logged

variable {σ δ α : Type}

/-- An action that writes down what it does. -/
def act (deeds : σ → List δ) (x : Action σ α) : Action (Logged σ δ) α := fun l =>
  let (out, s) := x l.state
  (out, { state := s, log := l.log ++ deeds l.state })

theorem act_of {deeds : σ → List δ} {x : Action σ α} {l : Logged σ δ} {out : Outcome α} {s : σ}
    (h : x l.state = (out, s)) :
    act deeds x l = (out, { state := s, log := l.log ++ deeds l.state }) := by
  rw [act, h]

variable [Timed σ]

instance : Timed (Logged σ δ) where
  clock l := Timed.clock l.state
  setClock c l := { l with state := Timed.setClock c l.state }
  words l := Timed.words l.state
  setWords w l := { l with state := Timed.setWords w l.state }

end Logged

namespace RetryPolicy

variable {σ δ α : Type} [Timed σ] {p : RetryPolicy} {heedful : Bool} {op : Nat → Action σ α}
  {deeds : Nat → σ → List δ} {left failures : Nat}

/-- A pause writes nothing down. -/
theorem pause_logged {nanos : Nat} {l : Logged σ δ} {out : Outcome Unit} {s : σ}
    (h : pause heedful nanos l.state = (out, s)) :
    pause heedful nanos l = (out, { l with state := s }) := by
  obtain ⟨c, hrun, rfl⟩ := within_eq h
  exact within_of hrun

/-- The tries of a call are tries of the call that keeps a log. -/
theorem Calls.logged {s s' : σ} {out : Outcome α} (h : Calls p heedful op left failures s out s')
    (log : List δ) :
    ∃ more, Calls p heedful (fun n => Logged.act (deeds n) (op n)) left failures
      { state := s, log } out { state := s', log := log ++ more } := by
  induction h generalizing log with
  | givenUp hheedful hcancel =>
      refine ⟨[], ?_⟩
      rw [List.append_nil]
      exact .givenUp hheedful hcancel
  | last hcancel htry hlast => exact ⟨_, .last hcancel (Logged.act_of htry) hlast⟩
  | @again _ failures _ _ s _ _ _ _ _ _ hcancel htry hrecord hpause _ ih =>
      obtain ⟨more, hmore⟩ := ih (log ++ deeds failures s)
      refine ⟨deeds failures s ++ more, ?_⟩
      rw [← List.append_assoc]
      exact .again hcancel (Logged.act_of htry) hrecord (pause_logged hpause) hmore
  | interrupted hcancel htry hrecord hpause =>
      exact ⟨_, .interrupted hcancel (Logged.act_of htry) hrecord (pause_logged hpause)⟩

/-- A call that keeps a log runs as it does without one, and adds to its log. -/
theorem callFrom_logged {s s' : σ} {out : Outcome α}
    (h : callFrom p heedful op left failures s = (out, s')) (log : List δ) :
    ∃ more, callFrom p heedful (fun n => Logged.act (deeds n) (op n)) left failures
      { state := s, log } = (out, { state := s', log := log ++ more }) := by
  obtain ⟨more, hmore⟩ := (callFrom_calls h).logged log
  exact ⟨more, callFrom_of_calls hmore⟩

end RetryPolicy

end RespClient
