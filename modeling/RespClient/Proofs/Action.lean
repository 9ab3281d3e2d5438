import RespClient.Action

/-!
# Actions, step by step

How a sequence of actions runs, given how its first action ran, and the converse:
a sequence that gave a value ran through both of its parts. An action that is run
again and again gives its values one by one until it stops. An action ends in some kind of
states if it never stalls there; what is put together from such actions ends as well.
-/

namespace RespClient.Action

variable {σ α β : Type} {x : Action σ α} {f : α → Action σ β} {s s' t : σ}

@[simp] theorem pure_apply (a : α) (s : σ) : (pure a : Action σ α) s = (.ok a, s) := rfl

theorem bind_apply (x : Action σ α) (f : α → Action σ β) (s : σ) :
    (x >>= f) s = match x s with
      | (.ok a, s) => f a s
      | (.error e, s) => (.error e, s)
      | (.stalled, s) => (.stalled, s) := rfl

theorem update_bind (g : σ → σ) (f : Unit → Action σ β) (s : σ) :
    (update g >>= f) s = f () (g s) := rfl

theorem get_bind (f : σ → Action σ β) (s : σ) : (get >>= f) s = f s s := rfl

theorem view_bind (g : σ → α) (f : α → Action σ β) (s : σ) : (view g >>= f) s = f (g s) s := rfl

theorem bind_of_ok {a : α} (h : x s = (.ok a, s')) : (x >>= f) s = f a s' := by
  rw [bind_apply, h]

theorem bind_of_error {e : Failure} (h : x s = (.error e, s')) :
    (x >>= f) s = (.error e, s') := by
  rw [bind_apply, h]

theorem bind_of_stalled (h : x s = (.stalled, s')) : (x >>= f) s = (.stalled, s') := by
  rw [bind_apply, h]

/-- A sequence gives a value exactly when its first action does and the second
one then does. -/
theorem bind_eq_ok {b : β} :
    (x >>= f) s = (.ok b, t) ↔ ∃ a s', x s = (.ok a, s') ∧ f a s' = (.ok b, t) := by
  constructor
  · intro h
    rcases hx : x s with ⟨r, s'⟩
    cases r with
    | ok a => exact ⟨a, s', rfl, by rwa [bind_of_ok hx] at h⟩
    | error e => rw [bind_of_error hx] at h; cases h
    | stalled => rw [bind_of_stalled hx] at h; cases h
  · rintro ⟨a, s', hx, hf⟩
    rw [bind_of_ok hx, hf]

/-- A sequence fails exactly when its first action does, or the second one after it. -/
theorem bind_eq_error {e : Failure} :
    (x >>= f) s = (.error e, t) ↔
      x s = (.error e, t) ∨ ∃ a s', x s = (.ok a, s') ∧ f a s' = (.error e, t) := by
  constructor
  · intro h
    rcases hx : x s with ⟨r, s'⟩
    cases r with
    | ok a => exact .inr ⟨a, s', rfl, by rwa [bind_of_ok hx] at h⟩
    | error e' => rw [bind_of_error hx] at h; cases h; exact .inl rfl
    | stalled => rw [bind_of_stalled hx] at h; cases h
  · rintro (hx | ⟨a, s', hx, hf⟩)
    · exact bind_of_error hx
    · rw [bind_of_ok hx, hf]

theorem ofExcept_state {r : Except Failure α} {out : Outcome α} (h : ofExcept r s = (out, t)) :
    t = s := by
  cases r <;> exact (congrArg Prod.snd h).symm

theorem ofExcept_eq_ok {r : Except Failure α} {a : α} (h : ofExcept r s = (.ok a, t)) :
    r = .ok a ∧ t = s := by
  cases r <;> cases h
  exact ⟨rfl, rfl⟩

theorem attempt_of_ok {a : α} (h : x s = (.ok a, t)) : attempt x s = (.ok (.ok a), t) := by
  rw [attempt, h]

theorem attempt_of_error {e : Failure} (h : x s = (.error e, t)) :
    attempt x s = (.ok (.error e), t) := by
  rw [attempt, h]

theorem attempt_of_stalled (h : x s = (.stalled, t)) : attempt x s = (.stalled, t) := by
  rw [attempt, h]

/-- Two sequences with the same beginning run alike if they go on alike from
wherever the beginning gives a value. -/
theorem bind_eq_bind {g : α → Action σ β}
    (h : ∀ a s', x s = (.ok a, s') → f a s' = g a s') : (x >>= f) s = (x >>= g) s := by
  rcases hx : x s with ⟨r, s'⟩
  cases r with
  | ok a => rw [bind_of_ok hx, bind_of_ok hx, h a s' hx]
  | error e => rw [bind_of_error hx, bind_of_error hx]
  | stalled => rw [bind_of_stalled hx, bind_of_stalled hx]

/-! ## Actions that stop -/

/-- The outcome of an action that gave no value: a failure, or none in case it stalls. -/
def stopped : Option Failure → Outcome α
  | some e => .error e
  | none => .stalled

theorem bind_of_stopped {stop : Option Failure} (h : x s = (stopped stop, s')) :
    (x >>= f) s = (stopped stop, s') := by
  cases stop with
  | none => exact bind_of_stalled h
  | some e => exact bind_of_error h

@[simp] theorem stopped_ne_ok {stop : Option Failure} {a : α} :
    (stopped stop : Outcome α) ≠ .ok a := by
  cases stop <;> rintro ⟨⟩

/-- A sequence runs through both of its parts, or it stops where its first action does. -/
theorem bind_cases {out : Outcome β} (h : (x >>= f) s = (out, t)) :
    (∃ a s', x s = (.ok a, s') ∧ f a s' = (out, t)) ∨
      ∃ stop, x s = (stopped stop, t) ∧ out = stopped stop := by
  rcases hx : x s with ⟨r, s'⟩
  cases r with
  | ok a =>
      rw [bind_of_ok hx] at h
      exact .inl ⟨a, s', rfl, h⟩
  | error e =>
      rw [bind_of_error hx] at h
      cases h
      exact .inr ⟨some e, rfl, rfl⟩
  | stalled =>
      rw [bind_of_stalled hx] at h
      cases h
      exact .inr ⟨none, rfl, rfl⟩

/-- An action whose value is thrown away runs as it did before. -/
theorem bind_unit_eq {out : Outcome Unit} (h : (x >>= fun _ => pure ()) s = (out, t)) :
    (∃ a, x s = (.ok a, t) ∧ out = .ok ()) ∨ ∃ stop, x s = (stopped stop, t) ∧ out = stopped stop := by
  rcases bind_cases h with ⟨a, s', hx, hgive⟩ | hstop
  · cases hgive
    exact .inl ⟨a, hx, rfl⟩
  · exact .inr hstop

/-! ## Actions on a part of the state -/

section

variable {ρ : Type} {part : σ → ρ} {put : ρ → σ → σ} {y : Action ρ α} {out : Outcome α} {p : ρ}

theorem within_of (h : y (part s) = (out, p)) : within part put y s = (out, put p s) := by
  rw [within, h]

theorem within_eq (h : within part put y s = (out, t)) :
    ∃ p, y (part s) = (out, p) ∧ t = put p s := by
  rcases hy : y (part s) with ⟨r, p⟩
  rw [within_of hy] at h
  cases h
  exact ⟨p, rfl, rfl⟩

end

/-! ## Actions run again and again -/

/-- Run again and again, the action gives the values `as` and leads from one state to
another. -/
inductive Runs (x : Action σ α) : σ → List α → σ → Prop
  | nil (s : σ) : Runs x s [] s
  | cons {s s' t : σ} {a : α} {as : List α} (h : x s = (.ok a, s')) (hs : Runs x s' as t) :
      Runs x s (a :: as) t

theorem runs_append {as bs : List α} :
    Runs x s (as ++ bs) t ↔ ∃ s', Runs x s as s' ∧ Runs x s' bs t := by
  constructor
  · intro h
    induction as generalizing s with
    | nil => exact ⟨s, .nil s, h⟩
    | cons a as ih =>
        cases h with
        | cons h hs =>
            obtain ⟨s', has, hbs⟩ := ih hs
            exact ⟨s', .cons h has, hbs⟩
  · rintro ⟨s', has, hbs⟩
    induction has with
    | nil => exact hbs
    | cons h _ ih => exact .cons h (ih hbs)

/-- An action runs `n` times, or it stops before. -/
theorem exists_runs (x : Action σ α) (n : Nat) (s : σ) :
    ∃ as s', Runs x s as s' ∧
      (as.length = n ∨ as.length < n ∧ ∃ stop t, x s' = (stopped stop, t)) := by
  induction n generalizing s with
  | zero => exact ⟨[], s, .nil s, .inl rfl⟩
  | succ n ih =>
      rcases hx : x s with ⟨r, s₁⟩
      cases r with
      | ok a =>
          obtain ⟨as, s', hruns, hend⟩ := ih s₁
          refine ⟨a :: as, s', .cons hx hruns, ?_⟩
          rcases hend with hlen | ⟨hlen, hstop⟩
          · exact .inl (by rw [List.length_cons, hlen])
          · exact .inr ⟨by rw [List.length_cons]; omega, hstop⟩
      | error e => exact ⟨[], s, .nil s, .inr ⟨Nat.succ_pos n, some e, s₁, hx⟩⟩
      | stalled => exact ⟨[], s, .nil s, .inr ⟨Nat.succ_pos n, none, s₁, hx⟩⟩

/-! ## Actions that end -/

/-- Started in this state the action gives a value or fails, and leaves a state of some kind
behind. -/
def EndsAt (P : σ → Prop) (x : Action σ α) (s : σ) : Prop :=
  (x s).1 ≠ .stalled ∧ P (x s).2

/-- The action ends in every state of a kind and keeps to that kind. -/
def Ends (P : σ → Prop) (x : Action σ α) : Prop :=
  ∀ ⦃s⦄, P s → EndsAt P x s

section

variable {P : σ → Prop} {ρ : Type} {Q : ρ → Prop}

theorem endsAt_of_ok {a : α} (h : x s = (.ok a, s')) (hP : P s') : EndsAt P x s := by
  rw [EndsAt, h]
  exact ⟨by rintro ⟨⟩, hP⟩

theorem endsAt_of_error {e : Failure} (h : x s = (.error e, s')) (hP : P s') : EndsAt P x s := by
  rw [EndsAt, h]
  exact ⟨by rintro ⟨⟩, hP⟩

theorem EndsAt.outcome {out : Outcome α} (h : EndsAt P x s) (hx : x s = (out, s')) :
    out ≠ .stalled ∧ P s' := by
  rwa [EndsAt, hx] at h

/-- An action that ends gives a value or fails. -/
theorem EndsAt.cases (h : EndsAt P x s) :
    (∃ a s', x s = (.ok a, s') ∧ P s') ∨ ∃ e s', x s = (.error e, s') ∧ P s' := by
  obtain ⟨hends, hP⟩ := h
  rcases hx : x s with ⟨r, s'⟩
  rw [hx] at hends hP
  cases r with
  | ok a => exact .inl ⟨a, s', rfl, hP⟩
  | error e => exact .inr ⟨e, s', rfl, hP⟩
  | stalled => exact absurd rfl hends

theorem EndsAt.bind (hx : EndsAt P x s)
    (hf : ∀ a s', x s = (.ok a, s') → P s' → EndsAt P (f a) s') : EndsAt P (x >>= f) s := by
  rcases hx.cases with ⟨a, s', h, hP⟩ | ⟨e, s', h, hP⟩
  · have hnext := hf a s' h hP
    rwa [EndsAt, bind_of_ok h]
  · exact endsAt_of_error (bind_of_error h) hP

namespace Ends

theorem give (a : α) : Ends P (Action.give a : Action σ α) :=
  fun _ hs => endsAt_of_ok rfl hs

theorem fail (e : Failure) : Ends P (Action.fail e : Action σ α) :=
  fun _ hs => endsAt_of_error rfl hs

theorem view (g : σ → α) : Ends P (Action.view g) :=
  fun _ hs => endsAt_of_ok rfl hs

theorem update {g : σ → σ} (hg : ∀ s, P s → P (g s)) : Ends P (Action.update g) :=
  fun s hs => endsAt_of_ok rfl (hg s hs)

theorem ofExcept (r : Except Failure α) : Ends P (Action.ofExcept r : Action σ α) := by
  cases r with
  | ok a => exact give a
  | error e => exact fail e

theorem bind (hx : Ends P x) (hf : ∀ a, Ends P (f a)) : Ends P (x >>= f) :=
  fun _ hs => (hx hs).bind fun a _ _ hs' => hf a hs'

theorem attempt (hx : Ends P x) : Ends P (Action.attempt x) := by
  intro s hs
  rcases (hx hs).cases with ⟨a, s', h, hP⟩ | ⟨e, s', h, hP⟩
  · exact endsAt_of_ok (attempt_of_ok h) hP
  · exact endsAt_of_ok (attempt_of_error h) hP

/-- An action on a part of the state ends if it does so on that part alone. -/
theorem within {part : σ → ρ} {put : ρ → σ → σ} {y : Action ρ α} (hy : Ends Q y)
    (hpart : ∀ s, P s → Q (part s)) (hput : ∀ s p, P s → Q p → P (put p s)) :
    Ends P (Action.within part put y) := by
  intro s hs
  obtain ⟨hends, hkeeps⟩ := hy (hpart s hs)
  exact ⟨hends, hput s _ hs hkeeps⟩

end Ends

end

end RespClient.Action
