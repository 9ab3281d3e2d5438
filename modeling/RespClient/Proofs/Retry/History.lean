import RespClient.Retry.Policy
import Mathlib.Data.List.Induction

/-!
# The count over a history

The count of failures knows one number only, and failures, rejected or not, and successes come
in any order. Beside it stands the log of all that happened and of what was answered. The
number is always what the log says: the failures that were answered with a delay behind the
last success. What is answered next, and how long the delay is, goes by that number alone.
-/

namespace RespClient.RetryPolicy

/-- What happened, and the delay that was answered, if any. -/
abbrev Entry := RetryEvent × Option Nat

/-- A count with its log. -/
structure Account where
  log : List Entry := []
  failures : Nat := 0
  words : WordSource

/-- Takes note of what happened, and of the answer. -/
def Account.note (p : RetryPolicy) (a : Account) (event : RetryEvent) : Account :=
  let (answer, failures, words) := p.record a.failures event a.words
  { log := a.log ++ [(event, answer)], failures, words }

/-- The account of a history. -/
def account (p : RetryPolicy) (words : WordSource) (events : List RetryEvent) : Account :=
  events.foldl (Account.note p) { words }

/-- The entries behind the last success. -/
def sinceSuccess (log : List Entry) : List Entry :=
  (log.reverse.takeWhile fun entry => entry.1 != .succeeded).reverse

/-- The failures that were accepted since the last success. -/
def accepted (log : List Entry) : Nat :=
  (sinceSuccess log).countP fun entry => entry.2.isSome

/-- The event is a failure that is worth another try. -/
def isWorthy (p : RetryPolicy) : RetryEvent → Bool
  | .failed e => p.isRetryable e
  | .succeeded => false

/-- The failures worth another try since the last success, accepted or not. -/
def worthy (p : RetryPolicy) (log : List Entry) : Nat :=
  (sinceSuccess log).countP fun entry => p.isWorthy entry.1

variable {p : RetryPolicy} {a : Account} {log : List Entry} {e : Failure} {answer : Option Nat}

/-! ## The log, one entry more -/

theorem sinceSuccess_failed (log : List Entry) (e : Failure) (answer : Option Nat) :
    sinceSuccess (log ++ [(.failed e, answer)]) = sinceSuccess log ++ [(.failed e, answer)] := by
  simp [sinceSuccess]

theorem sinceSuccess_succeeded (log : List Entry) (answer : Option Nat) :
    sinceSuccess (log ++ [(.succeeded, answer)]) = [] := by
  simp [sinceSuccess]

theorem accepted_failed (log : List Entry) (e : Failure) (answer : Option Nat) :
    accepted (log ++ [(.failed e, answer)]) = accepted log + if answer.isSome then 1 else 0 := by
  simp [accepted, sinceSuccess_failed, List.countP_singleton]

theorem worthy_failed (log : List Entry) (e : Failure) (answer : Option Nat) :
    worthy p (log ++ [(.failed e, answer)]) =
      worthy p log + if p.isRetryable e then 1 else 0 := by
  simp [worthy, sinceSuccess_failed, List.countP_singleton, isWorthy]

/-! ## One step and whole histories -/

/-- The number is what the log says. -/
structure Account.Agrees (p : RetryPolicy) (a : Account) : Prop where
  accepted : a.failures = accepted a.log
  /-- Only the limit of the policy keeps failures that are worth another try from counting. -/
  worthy : a.failures = min p.maxRetries (worthy p a.log)

theorem Account.Agrees.note (h : a.Agrees p) (event : RetryEvent) : (a.note p event).Agrees p := by
  cases event with
  | succeeded =>
      constructor
      · show 0 = RetryPolicy.accepted (a.log ++ [(.succeeded, none)])
        rw [RetryPolicy.accepted, sinceSuccess_succeeded]
        rfl
      · show 0 = min p.maxRetries (RetryPolicy.worthy p (a.log ++ [(.succeeded, none)]))
        rw [RetryPolicy.worthy, sinceSuccess_succeeded]
        exact (Nat.min_eq_right (Nat.zero_le _)).symm
  | failed e =>
      have haccepted := h.accepted
      have hworthy := h.worthy
      by_cases hdue : p.isRetryable e = true ∧ a.failures < p.maxRetries
      · have hrecord := recordFailure_of_due hdue.1 hdue.2 a.words
        constructor
        · simp only [Account.note, record, hrecord, accepted_failed, Option.isSome_some, if_true]
          omega
        · simp only [Account.note, record, hrecord, worthy_failed, hdue.1, if_true]
          omega
      · have hrecord := recordFailure_of_not_due hdue a.words
        constructor
        · simp only [Account.note, record, hrecord, accepted_failed, Option.isSome_none]
          simpa using haccepted
        · simp only [Account.note, record, hrecord, worthy_failed]
          split
          · rename_i hretry
            have hfull : p.maxRetries ≤ a.failures :=
              Nat.not_lt.mp fun hmore => hdue ⟨hretry, hmore⟩
            omega
          · exact hworthy

theorem account_append_singleton (p : RetryPolicy) (words : WordSource)
    (events : List RetryEvent) (event : RetryEvent) :
    p.account words (events ++ [event]) = (p.account words events).note p event := by
  rw [account, List.foldl_append]
  rfl

theorem account_agrees (p : RetryPolicy) (words : WordSource) (events : List RetryEvent) :
    (p.account words events).Agrees p := by
  induction events using List.reverseRecOn with
  | nil => exact ⟨rfl, (Nat.min_eq_right (Nat.zero_le _)).symm⟩
  | append_singleton events event ih =>
      rw [account_append_singleton]
      exact ih.note event

theorem account_log (p : RetryPolicy) (words : WordSource) (events : List RetryEvent) :
    (p.account words events).log.map Prod.fst = events := by
  induction events using List.reverseRecOn with
  | nil => rfl
  | append_singleton events event ih =>
      rw [account_append_singleton]
      show ((p.account words events).log ++ [(event, _)]).map Prod.fst = _
      rw [List.map_append, ih]
      rfl

/-- After a history, the count and its next answer go by the failures that were accepted since
the last success. -/
structure Account.Counts (p : RetryPolicy) (a : Account) : Prop where
  count : a.failures = accepted a.log
  bounded : a.failures ≤ p.maxRetries
  plain : a.failures = min p.maxRetries (worthy p a.log)
  due : ∀ e, (p.recordFailure a.failures e a.words).1.isSome = true ↔
    e.kind ∈ p.retryable ∧ accepted a.log < p.maxRetries
  delay : ∀ e nanos, (p.recordFailure a.failures e a.words).1 = some nanos →
    nanos = (p.backoff.delay (accepted a.log) a.words).1
  rejected : ∀ e, (p.recordFailure a.failures e a.words).1 = none →
    (p.recordFailure a.failures e a.words).2.1 = a.failures

theorem isRetryable_iff : p.isRetryable e = true ↔ e.kind ∈ p.retryable :=
  List.contains_iff_mem

theorem Account.Agrees.counts (h : a.Agrees p) : a.Counts p := by
  constructor
  · exact h.accepted
  · rw [h.worthy]
    exact Nat.min_le_left _ _
  · exact h.worthy
  · intro e
    rw [← h.accepted, ← isRetryable_iff]
    by_cases hdue : p.isRetryable e = true ∧ a.failures < p.maxRetries
    · rw [recordFailure_of_due hdue.1 hdue.2]
      exact iff_of_true rfl hdue
    · rw [recordFailure_of_not_due hdue]
      exact iff_of_false Bool.false_ne_true hdue
  · intro e nanos hanswer
    rw [← h.accepted]
    by_cases hdue : p.isRetryable e = true ∧ a.failures < p.maxRetries
    · rw [recordFailure_of_due hdue.1 hdue.2] at hanswer
      exact (Option.some.inj hanswer).symm
    · rw [recordFailure_of_not_due hdue] at hanswer
      cases hanswer
  · intro e hanswer
    by_cases hdue : p.isRetryable e = true ∧ a.failures < p.maxRetries
    · rw [recordFailure_of_due hdue.1 hdue.2] at hanswer
      cases hanswer
    · rw [recordFailure_of_not_due hdue]

/-- **The count is what the history says**, for every policy and every sequence of failures and
successes: it is the number of failures that were accepted since the last success, and it alone
decides whether and after which delay another try is due. -/
theorem history_counts (p : RetryPolicy) (words : WordSource) (events : List RetryEvent) :
    (p.account words events).log.map Prod.fst = events ∧ (p.account words events).Counts p :=
  ⟨account_log p words events, (account_agrees p words events).counts⟩

/-- A failure that is never retried, and one too many, do not count; a success ends the row. -/
example :
    let p : RetryPolicy := { backoff := .exponential 10 25, maxRetries := 2 }
    let late : RetryEvent := .failed (.timeout "node")
    (p.account [] [late, .failed .crossSlot, late, late, .succeeded, late]).log.map Prod.snd =
      [some 10, none, some 20, none, none, some 10] := by
  decide

end RespClient.RetryPolicy
