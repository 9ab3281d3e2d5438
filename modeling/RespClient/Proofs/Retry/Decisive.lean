import RespClient.Proofs.Retry.Call
import RespClient.Retry.Trial
import Mathlib.Order.Bounds.Defs

/-!
# The first decisive try

A try is decisive if it succeeds, if it fails in a way that another try cannot help, or if it
is the last one that the policy allows. A call makes its tries up to the first decisive one,
sleeps between two of them as long as the policy says and nowhere else, and gives what the
decisive one gave. If the caller has given up by the time at which one of these tries would
begin, that try does not begin, and the call ends as cancelled: with the try before it if the
caller gave up by then, and otherwise at the moment at which he did, in the middle of a sleep.
-/

namespace RespClient

open RespClient.Action

/-! ## Waiting without a deadline -/

namespace Clock

variable {c : Clock} {moment nanos : Nat}

/-- The clock at another time. -/
def moved (c : Clock) (now : Nat) : Clock :=
  { c with now }

theorem isCancelled_iff :
    c.isCancelled = true ↔ ∃ moment, c.cancelAt = some moment ∧ moment ≤ c.now := by
  rw [isCancelled, Option.any_eq_true]
  simp only [decide_eq_true_eq]

theorem waitUntil_of_unlimited (hc : c.deadline = none) (moment : Nat) :
    waitUntil moment c = (.ok (), c.moved (max c.now moment)) := by
  have hbeyond : c.isBeyond moment = false := by
    rw [isBeyond, hc]
    rfl
  rw [waitUntil, hbeyond]
  rfl

theorem wait_of_unlimited (hc : c.deadline = none) (millis : Nat) :
    wait millis c = (.ok (), c.moved (c.now + millis)) := by
  rw [wait, waitUntil_of_unlimited hc, Nat.max_eq_right (Nat.le_add_right _ _)]

/-- Nobody cuts a sleep short who has not given up when it begins nor does so before its end. -/
theorem sleep_of_uncut (h : ∀ t, c.cancelAt = some t → c.now < t ∧ c.now + millis nanos ≤ t) :
    sleep nanos c = wait (millis nanos) c := by
  have hnone : (c.cancelAt.filter fun t => t ≤ c.now || t < c.now + millis nanos) = none := by
    refine Option.filter_eq_none_iff.mpr fun t ht => ?_
    obtain ⟨hbegin, hend⟩ := h t ht
    simp only [Bool.or_eq_true, decide_eq_true_eq]
    omega
  simp only [sleep, hnone, wait]

/-- Whoever has given up when a sleep begins, or does so before its end, cuts it short. -/
theorem sleep_of_cut (hc : c.deadline = none) (hcancel : c.cancelAt = some moment)
    (hearly : moment ≤ c.now ∨ moment < c.now + millis nanos) :
    sleep nanos c = (.error .cancelled, c.moved (max c.now moment)) := by
  have hsome :
      (c.cancelAt.filter fun t => t ≤ c.now || t < c.now + millis nanos) = some moment := by
    refine Option.filter_eq_some_iff.mpr ⟨hcancel, ?_⟩
    simpa only [Bool.or_eq_true, decide_eq_true_eq] using hearly
  simp only [sleep, hsome, waitUntil_of_unlimited hc]

/-- A sleep by the end of which the caller has given up ends when he does so. It need not
notice if that is the moment at which it ends anyway. -/
theorem sleep_of_givenUp (hc : c.deadline = none) (hcancel : c.cancelAt = some moment)
    (hwake : moment ≤ c.now + millis nanos) :
    ∃ out, sleep nanos c = (out, c.moved (max c.now moment)) ∧
      (out = .error .cancelled ∨ out = .ok ()) := by
  by_cases hearly : moment ≤ c.now ∨ moment < c.now + millis nanos
  · exact ⟨_, sleep_of_cut hc hcancel hearly, .inl rfl⟩
  · have hlast : moment = c.now + millis nanos := by omega
    refine ⟨.ok (), ?_, .inr rfl⟩
    have huncut : ∀ t, c.cancelAt = some t → c.now < t ∧ c.now + millis nanos ≤ t := by
      intro t ht
      obtain rfl : moment = t := Option.some.inj (hcancel.symm.trans ht)
      omega
    rw [sleep_of_uncut huncut, wait_of_unlimited hc, hlast, Nat.max_eq_right (Nat.le_add_right _ _)]

end Clock

/-- States of which the clock and the words can be changed alone. -/
class Timed.Lawful (σ : Type) [Timed σ] : Prop where
  clock_setClock (c : Clock) (s : σ) : Timed.clock (Timed.setClock c s) = c
  clock_setWords (w : WordSource) (s : σ) : Timed.clock (Timed.setWords w s) = Timed.clock s

instance : Timed.Lawful Trial :=
  ⟨fun _ _ => rfl, fun _ _ => rfl⟩

/-- What becomes of an action with a result that is known. -/
def Outcome.ofResult {α : Type} : Except Failure α → Outcome α
  | .ok a => .ok a
  | .error e => .error e

namespace RetryPolicy

variable {σ α : Type} [Timed σ]

/-! ## What a call should do -/

/-- Is the outcome of the try after `i` others decisive? -/
def Decisive (p : RetryPolicy) (o : Nat → Except Failure α) (i : Nat) : Prop :=
  (∃ a, o i = .ok a) ∨ (∃ e, o i = .error e ∧ p.isRetryable e = false) ∨ i = p.maxRetries

/-- Chooses the delay that follows a failure after `n` others. -/
def chooseDelay (p : RetryPolicy) (n : Nat) : Action σ Nat := fun s =>
  let (nanos, words) := p.backoff.delay n (Timed.words s)
  (.ok nanos, Timed.setWords words s)

/-- The first `n` tries, whatever becomes of them, each with the sleep after it. -/
def rounds (p : RetryPolicy) (op : Nat → Action σ α) : Nat → Action σ Unit
  | 0 => pure ()
  | n + 1 => do
    p.rounds op n
    let _ ← attempt (op n)
    let nanos ← p.chooseDelay n
    pause false nanos

/-- The first `n` tries with the sleeps between them, and after the last of them nothing but
waiting for some moment, if it is still to come. -/
def roundsUntil (p : RetryPolicy) (op : Nat → Action σ α) (moment : Nat) : Nat → Action σ Unit
  | 0 => pure ()
  | n + 1 => do
    p.rounds op n
    let _ ← attempt (op n)
    let _ ← p.chooseDelay n
    Timed.onClock (Clock.waitUntil moment)

/-- The first `k` tries, each with the sleep after it, and then the last try. -/
def tries (p : RetryPolicy) (op : Nat → Action σ α) (k : Nat) : Action σ α := do
  p.rounds op k
  op k

/-- The state in which the try after `n` others begins. -/
def begins (p : RetryPolicy) (op : Nat → Action σ α) (s : σ) (n : Nat) : σ :=
  (p.rounds op n s).2

/-- Has the caller given up by the time at which the try after `n` others begins? -/
def IsGivenUp (p : RetryPolicy) (op : Nat → Action σ α) (s : σ) (n : Nat) : Prop :=
  (Timed.clock (p.begins op s n)).isCancelled = true

/-- The try after `i` others ends as a sequence of outcomes says, and sets no deadline. It may
take its time, and the caller may give up meanwhile. -/
structure Plays (p : RetryPolicy) (op : Nat → Action σ α) (o : Nat → Except Failure α) (s : σ)
    (i : Nat) : Prop where
  outcome : (op i (p.begins op s i)).1 = .ofResult (o i)
  deadline : (Timed.clock (op i (p.begins op s i)).2).deadline = none

/-- The tries of a call end with the decisive one after `k` others. -/
structure EndsWith (p : RetryPolicy) (op : Nat → Action σ α) (o : Nat → Except Failure α) (s : σ)
    (k : Nat) : Prop where
  outcome : (p.tries op k s).1 = .ofResult (o k)
  /-- A call that heeds nobody makes them all. -/
  heedless : p.call false op s = p.tries op k s
  /-- So does one that heeds its caller, if he still waits for it when they begin. -/
  awaited : (∀ i ≤ k, ¬p.IsGivenUp op s i) → p.call true op s = p.tries op k s
  /-- Otherwise it makes only those that begin before he gives up. -/
  givenUp : ∀ m ≤ k, (∀ i < m, ¬p.IsGivenUp op s i) →
    ∀ moment, (Timed.clock (p.begins op s m)).cancelAt = some moment →
      moment ≤ Timed.now (p.begins op s m) →
        p.call true op s = (.error .cancelled, (p.roundsUntil op moment m s).2)

variable {p : RetryPolicy} {op : Nat → Action σ α} {o : Nat → Except Failure α} {s : σ}
  {heedful : Bool} {i j k moment : Nat}

/-! ## Decisive tries -/

/-- Before the first decisive try every try fails, and another one is due. -/
theorem error_of_lt (hk : IsLeast {i | p.Decisive o i} k) (hi : i < k) :
    i < p.maxRetries ∧ ∃ e, o i = .error e ∧ p.isRetryable e = true := by
  have hnot : ¬p.Decisive o i := fun h => absurd (hk.2 h) (Nat.not_le.mpr hi)
  have hmax : k ≤ p.maxRetries := hk.2 (.inr (.inr rfl))
  refine ⟨Nat.lt_of_lt_of_le hi hmax, ?_⟩
  rcases ho : o i with e | a
  · rcases hretry : p.isRetryable e with _ | _
    · exact absurd (.inr (.inl ⟨e, ho, hretry⟩)) hnot
    · exact ⟨e, rfl, hretry⟩
  · exact absurd (.inl ⟨a, ho⟩) hnot

/-! ## Rounds -/

/-- The state after the try after `n` others, with the delay after it chosen. -/
def tried (p : RetryPolicy) (op : Nat → Action σ α) (s : σ) (n : Nat) : σ :=
  (p.chooseDelay n (op n (p.begins op s n)).2).2

/-- The delay after that try. -/
def delayAfter (p : RetryPolicy) (op : Nat → Action σ α) (s : σ) (n : Nat) : Nat :=
  (p.backoff.delay n (Timed.words (op n (p.begins op s n)).2)).1

theorem Plays.eq (h : p.Plays op o s i) :
    op i (p.begins op s i) = (.ofResult (o i), (op i (p.begins op s i)).2) := by
  rw [← h.outcome]

theorem Plays.attempt_eq (h : p.Plays op o s i) :
    attempt (op i) (p.begins op s i) = (.ok (o i), (op i (p.begins op s i)).2) := by
  have heq := h.eq
  rcases ho : o i with e | a
  · rw [ho] at heq
    exact attempt_of_error heq
  · rw [ho] at heq
    exact attempt_of_ok heq

/-- A round goes from the state in which its try begins to the end of the sleep after it. -/
theorem rounds_succ (h : p.Plays op o s i)
    (hrounds : p.rounds op i s = (.ok (), p.begins op s i)) :
    p.rounds op (i + 1) s = pause false (p.delayAfter op s i) (p.tried op s i) := by
  rw [rounds, bind_of_ok hrounds, bind_of_ok h.attempt_eq]
  rfl

theorem roundsUntil_succ (h : p.Plays op o s i)
    (hrounds : p.rounds op i s = (.ok (), p.begins op s i)) (moment : Nat) :
    p.roundsUntil op moment (i + 1) s =
      Timed.onClock (Clock.waitUntil moment) (p.tried op s i) := by
  rw [roundsUntil, bind_of_ok hrounds, bind_of_ok h.attempt_eq]
  rfl

theorem onClock_eq {x : Action Clock Unit} {c : Clock} {out : Outcome Unit}
    (h : x (Timed.clock s) = (out, c)) : Timed.onClock x s = (out, Timed.setClock c s) :=
  within_of h

section

variable [Timed.Lawful σ]

theorem Plays.tried_deadline (h : p.Plays op o s i) :
    (Timed.clock (p.tried op s i)).deadline = none := by
  rw [tried, chooseDelay, Timed.Lawful.clock_setWords]
  exact h.deadline

/-- The sleep after a try lasts as long as it should. -/
theorem Plays.pause_eq (h : p.Plays op o s i) (nanos : Nat) :
    pause false nanos (p.tried op s i) =
      (.ok (), Timed.setClock ((Timed.clock (p.tried op s i)).moved
        (Timed.now (p.tried op s i) + Clock.millis nanos)) (p.tried op s i)) :=
  onClock_eq (Clock.wait_of_unlimited h.tried_deadline _)

theorem rounds_eq (hop : ∀ j < i, p.Plays op o s j) :
    p.rounds op i s = (.ok (), p.begins op s i) := by
  induction i with
  | zero => rfl
  | succ i ih =>
      have hplays := hop i (Nat.lt_succ_self i)
      have hrounds := ih fun j hj => hop j (Nat.lt_succ_of_lt hj)
      rw [begins, (rounds_succ hplays hrounds).trans (hplays.pause_eq _)]

/-- The next try begins after that sleep. -/
theorem begins_succ (hop : ∀ j ≤ i, p.Plays op o s j) :
    p.begins op s (i + 1) = Timed.setClock ((Timed.clock (p.tried op s i)).moved
      (Timed.now (p.tried op s i) + Clock.millis (p.delayAfter op s i))) (p.tried op s i) := by
  have hplays := hop i (Nat.le_refl i)
  have hrounds := rounds_eq fun j hj => hop j (Nat.le_of_lt hj)
  rw [begins, (rounds_succ hplays hrounds).trans (hplays.pause_eq _)]

/-- A caller who still waits when the next try begins has let the call sleep to the end. -/
theorem pause_of_awaited (hop : ∀ j ≤ i, p.Plays op o s j)
    (hnext : heedful = true → ¬p.IsGivenUp op s (i + 1)) :
    pause heedful (p.delayAfter op s i) (p.tried op s i) = (.ok (), p.begins op s (i + 1)) := by
  have hsleeps := (hop i (Nat.le_refl i)).pause_eq (p.delayAfter op s i)
  rw [begins_succ hop]
  cases heedful with
  | false => exact hsleeps
  | true =>
      refine onClock_eq ((Clock.sleep_of_uncut fun t ht => ?_).trans
        (Clock.wait_of_unlimited (hop i (Nat.le_refl i)).tried_deadline _))
      -- the try after the sleep would find out if he had given up by its end
      have hlater : Timed.now (p.tried op s i) + Clock.millis (p.delayAfter op s i) < t := by
        refine Nat.lt_of_not_le fun hle => hnext rfl (Clock.isCancelled_iff.mpr ⟨t, ?_⟩)
        rw [begins_succ hop, Timed.Lawful.clock_setClock]
        exact ⟨ht, hle⟩
      exact ⟨Nat.lt_of_le_of_lt (Nat.le_add_right _ _) hlater, Nat.le_of_lt hlater⟩

end

/-! ## Calls -/

theorem recordFailure_of_decisive {n : Nat} {e : Failure} (hn : p.Decisive o n)
    (ho : o n = .error e) (words : WordSource) : p.recordFailure n e words = (none, n, words) := by
  refine recordFailure_of_not_due (fun ⟨hretry, hmore⟩ => ?_) words
  rcases hn with ⟨a, ha⟩ | ⟨e', he', hnever⟩ | rfl
  · rw [ho] at ha
    cases ha
  · rw [ho] at he'
    cases he'
    rw [hnever] at hretry
    cases hretry
  · exact Nat.lt_irrefl _ hmore

theorem callFrom_of_givenUp {left n : Nat} (h : (Timed.clock s).isCancelled = true) :
    callFrom p true op left n s = (.error .cancelled, s) :=
  callFrom_of_calls (.givenUp rfl h)

section

variable {left n : Nat} {t : σ} (hheed : heedful = true → ¬(Timed.clock s).isCancelled = true)

include hheed

theorem heeds_eq_false : (heedful && (Timed.clock s).isCancelled) = false := by
  cases heedful with
  | false => rfl
  | true => exact Bool.eq_false_iff.mpr (hheed rfl)

/-- After a try that fails in a way that another one can help, the call sleeps and goes on. -/
theorem callFrom_of_due {e : Failure} (htry : op n s = (.error e, t))
    (hretry : p.isRetryable e = true) (hmore : n < p.maxRetries) :
    callFrom p heedful op (left + 1) n s =
      (p.chooseDelay n >>= fun nanos => pause heedful nanos >>= fun _ =>
        callFrom p heedful op left (n + 1)) t := by
  have hcancel := heeds_eq_false hheed
  have hrecord := recordFailure_of_due hretry hmore (Timed.words t)
  rcases hdelay : p.backoff.delay n (Timed.words t) with ⟨delay, words⟩
  rw [hdelay] at hrecord
  have hchoose : p.chooseDelay n t = (.ok delay, Timed.setWords words t) := by
    rw [chooseDelay, hdelay]
  rw [bind_of_ok hchoose]
  -- a pause that does not come to its end is the end of the call, on both sides
  rcases hpause : pause heedful delay (Timed.setWords words t) with ⟨⟨⟩ | e' | _, t'⟩
  · rw [bind_of_ok hpause]
    exact callFrom_of_calls (.again hcancel htry hrecord hpause (callFrom_calls rfl))
  · rw [bind_of_error hpause]
    have hpause : _ = (stopped (some e'), t') := hpause
    exact callFrom_of_calls (.interrupted hcancel htry hrecord hpause)
  · rw [bind_of_stalled hpause]
    have hpause : _ = (stopped none, t') := hpause
    exact callFrom_of_calls (.interrupted hcancel htry hrecord hpause)

/-- After a decisive try the call ends. -/
theorem callFrom_of_decisive (htry : op n s = (.ofResult (o n), t)) (hn : p.Decisive o n) :
    callFrom p heedful op left n s = (.ofResult (o n), t) := by
  refine callFrom_of_calls (.last (heeds_eq_false hheed) htry fun e he => .inl ?_)
  rcases ho : o n with e' | a
  · rw [ho] at he
    cases he
    rw [recordFailure_of_decisive hn ho]
  · rw [ho] at he
    cases he

end

section

variable (hk : IsLeast {i | p.Decisive o i} k) (hop : ∀ i ≤ k, p.Plays op o s i)

include hk hop

/-- After a try before the first decisive one the call sleeps and goes on. -/
theorem callFrom_round (hi : i < k) (hheed : heedful = true → ¬p.IsGivenUp op s i) :
    callFrom p heedful op (p.maxRetries - i) i (p.begins op s i) =
      (pause heedful (p.delayAfter op s i) >>= fun _ =>
        callFrom p heedful op (p.maxRetries - (i + 1)) (i + 1)) (p.tried op s i) := by
  obtain ⟨hmore, e, ho, hretry⟩ := error_of_lt hk hi
  have htry := (hop i (Nat.le_of_lt hi)).eq
  rw [ho] at htry
  rw [show p.maxRetries - i = p.maxRetries - (i + 1) + 1 by omega,
    callFrom_of_due hheed htry hretry hmore]
  rfl

variable [Timed.Lawful σ]

/-- A call comes to each try up to the first decisive one, as long as it is waited for. -/
theorem call_eq_callFrom (hj : j ≤ k) (hheed : heedful = true → ∀ i ≤ j, ¬p.IsGivenUp op s i) :
    p.call heedful op s = callFrom p heedful op (p.maxRetries - j) j (p.begins op s j) := by
  induction j with
  | zero => rfl
  | succ j ih =>
      have hearlier := ih (Nat.le_of_lt hj) fun h i hi => hheed h i (Nat.le_succ_of_le hi)
      have hplays : ∀ i ≤ j, p.Plays op o s i := fun i hi =>
        hop i (Nat.le_of_lt (Nat.lt_of_le_of_lt hi hj))
      have hpause := pause_of_awaited hplays fun h => hheed h (j + 1) (Nat.le_refl _)
      rw [hearlier, callFrom_round hk hop hj fun h => hheed h j (Nat.le_succ j)]
      exact bind_of_ok hpause

theorem call_of_awaited (hheed : heedful = true → ∀ i ≤ k, ¬p.IsGivenUp op s i) :
    p.call heedful op s = p.tries op k s := by
  have hlast := (hop k (Nat.le_refl k)).eq
  have hrounds := rounds_eq fun i hi => hop i (Nat.le_of_lt hi)
  rw [call_eq_callFrom hk hop (Nat.le_refl k) hheed, tries, bind_of_ok hrounds, hlast]
  exact callFrom_of_decisive (fun h => hheed h k (Nat.le_refl k)) hlast hk.1

theorem call_of_givenUp (hj : j ≤ k) (hbefore : ∀ i < j, ¬p.IsGivenUp op s i)
    (hcancel : (Timed.clock (p.begins op s j)).cancelAt = some moment)
    (hgivenUp : moment ≤ Timed.now (p.begins op s j)) :
    p.call true op s = (.error .cancelled, (p.roundsUntil op moment j s).2) := by
  have hnow : p.IsGivenUp op s j := Clock.isCancelled_iff.mpr ⟨moment, hcancel, hgivenUp⟩
  cases j with
  | zero => exact callFrom_of_givenUp hnow
  | succ j =>
      have hplays : ∀ i ≤ j, p.Plays op o s i := fun i hi =>
        hop i (Nat.le_trans hi (Nat.le_of_lt hj))
      have hunlimited := (hplays j (Nat.le_refl j)).tried_deadline
      have hbegins := begins_succ hplays
      have hclock : Timed.clock (p.begins op s (j + 1)) = _ :=
        hbegins ▸ Timed.Lawful.clock_setClock _ _
      rw [hclock] at hcancel
      rw [Timed.now, hclock] at hgivenUp
      -- he gave up in the try before or in the sleep after it, so that sleep ends early, or
      -- at its very end, and then the call looks for him before it goes on
      obtain ⟨out, hsleep, hout⟩ := Clock.sleep_of_givenUp hunlimited hcancel hgivenUp
      have hpause : pause true (p.delayAfter op s j) (p.tried op s j) = _ := onClock_eq hsleep
      have hrounds := rounds_eq fun i hi => hplays i (Nat.le_of_lt hi)
      rw [call_eq_callFrom hk hop (Nat.le_of_lt hj) fun _ i hi => hbefore i (Nat.lt_succ_of_le hi),
        callFrom_round hk hop hj fun _ => hbefore j (Nat.lt_succ_self j),
        roundsUntil_succ (hplays j (Nat.le_refl j)) hrounds,
        onClock_eq (Clock.waitUntil_of_unlimited hunlimited moment)]
      rcases hout with rfl | rfl
      · exact bind_of_error hpause
      · rw [bind_of_ok hpause]
        refine callFrom_of_givenUp (Clock.isCancelled_iff.mpr ⟨moment, ?_⟩)
        rw [Timed.Lawful.clock_setClock]
        exact ⟨hcancel, Nat.le_max_right _ _⟩

/-- **A call ends with its first decisive try.** It makes the tries up to that one, with the
sleeps between them that its policy says, and gives what that one gave. A caller who has given
up by the time at which one of these tries would begin ends the call before it: at once, or, if
it sleeps, at the moment at which he gives up. -/
theorem call_firstDecisive : p.EndsWith op o s k where
  outcome := by
    have hrounds := rounds_eq fun i hi => hop i (Nat.le_of_lt hi)
    rw [tries, bind_of_ok hrounds]
    exact (hop k (Nat.le_refl k)).outcome
  heedless := call_of_awaited hk hop (by rintro ⟨⟩)
  awaited h := call_of_awaited hk hop fun _ => h
  givenUp _ hm hbefore _ hcancel hgivenUp := call_of_givenUp hk hop hm hbefore hcancel hgivenUp

end

/-- Up to five more tries, ten milliseconds apart. -/
def steady : RetryPolicy :=
  { backoff := .equal 10000000, maxRetries := 5 }

/-- Two tries find nobody there and the third one succeeds. -/
def recovers : Nat → Except Failure Nat
  | 0 | 1 => .error (.connection "a:1" "refused")
  | n => .ok n

/-- A trial with these outcomes in which a try takes five milliseconds. The caller gives up in
the middle of the second sleep. -/
def recovery : Trial where
  clock := { cancelAt := some 22 }
  plan := [{ takes := 5, failure := some (.connection "a:1" "refused") },
    { takes := 5, failure := some (.connection "a:1" "refused") }, { takes := 5 }]

/-- A call that heeds nobody gets to the third try, and one that heeds its caller ends in the
middle of the second sleep. -/
theorem call_firstDecisive_recovery :
    IsLeast {i | steady.Decisive recovers i} 2 ∧
      (∀ i ≤ 2, steady.Plays Trial.operation recovers recovery i) ∧
      steady.EndsWith Trial.operation recovers recovery 2 ∧
      (steady.call false Trial.operation recovery).1 = .ok 2 ∧
      (steady.call true Trial.operation recovery).1 = .error .cancelled ∧
      (steady.call true Trial.operation recovery).2.started = [0, 15] ∧
      Timed.now (steady.call true Trial.operation recovery).2 = 22 := by
  have hk : IsLeast {i | steady.Decisive recovers i} 2 := by
    refine ⟨.inl ⟨2, rfl⟩, fun i hi => ?_⟩
    match i with
    | 0 | 1 => exact absurd hi (by rintro (⟨a, ⟨⟩⟩ | ⟨e, ⟨⟩, ⟨⟩⟩ | ⟨⟨⟩⟩))
    | n + 2 => exact Nat.le_add_left 2 n
  have hop : ∀ i ≤ 2, steady.Plays Trial.operation recovers recovery i
    | 0, _ => ⟨rfl, rfl⟩
    | 1, _ => ⟨rfl, rfl⟩
    | 2, _ => ⟨rfl, rfl⟩
  have hends := call_firstDecisive hk hop
  have hgivenUp := hends.givenUp 2 (Nat.le_refl 2) (by
    intro i hi
    match i with
    | 0 | 1 => rintro ⟨⟩) 22 rfl (by decide)
  refine ⟨hk, hop, hends, ?_, ?_, ?_, ?_⟩
  · rw [hends.heedless]
    exact hends.outcome
  · rw [hgivenUp]
  · rw [hgivenUp]
    rfl
  · rw [hgivenUp]
    rfl

end RetryPolicy

end RespClient
