import RespClient.Proofs.Routing.Refresh
import RespClient.Proofs.Routing.Trace

/-!
# What a routed command may cost

Two counts bound how often a command is sent: one try follows so many redirects at most, and
a call makes so many tries at most. Between two sends the router may read the slot map anew,
learn an owner or sleep, none of which sends the command. What one step of the router costs is
said for each step, and a sequence of steps costs as much as its steps do together.

No count bounds how long a node may take to answer. A router that does not come back waits for
one, and that is all that can keep it.
-/

namespace RespClient

theorem Leg.count_commands {c : Command} (leg : Leg) (h : c ≠ .asking) :
    (leg.commands c).count c = 1 := by
  unfold commands
  split
  · rw [List.count_cons_of_ne h.symm, List.count_singleton_self]
  · exact List.count_singleton_self

namespace Router

open RespClient.Action

variable {τ : Type} [Transport τ] {slot : Nat} {c : Command} {leg : Leg} {out : Outcome Frame}
  {r r' : Router τ}

/-! ## Handing a command over -/

/-- A command was handed over to nodes so many times, and else only requests for the slot
map were sent. -/
inductive Hands (c : Command) : Nat → Router τ → Router τ → Prop
  | tries {leg : Leg} {r : Router τ} {p : Pool τ} {out : Outcome (List Frame)}
      (h : Tries c leg r.pool out p) : Hands c 1 r { r with pool := p }
  | reloads {r r' : Router τ} (h : Reloads r r') : Hands c 0 r r'
  | trans {m n : Nat} {r r' r'' : Router τ} (h : Hands c m r r') (h' : Hands c n r' r'') :
      Hands c (m + n) r r''

namespace Hands

theorem maxRedirects {n : Nat} (h : Hands c n r r') : r'.maxRedirects = r.maxRedirects := by
  induction h with
  | tries => rfl
  | reloads h => rw [h.rest]
  | trans _ _ ih ih' => exact ih'.trans ih

/-- A command that the router never sends of its own accord was sent at most as often as it
was handed over. -/
theorem sent {n : Nat} (h : Hands c n r r') (hslots : c ≠ .clusterSlots) (hasking : c ≠ .asking) :
    ∃ log, r'.pool.network.sent = r.pool.network.sent ++ log ∧
      (log.map (·.command)).count c ≤ n := by
  induction h with
  | @tries leg _ _ _ h =>
      obtain ⟨log, hlog, hpart⟩ := h.sent
      refine ⟨log, hlog, ?_⟩
      rw [← leg.count_commands hasking]
      exact hpart.sublist.count_le c
  | reloads h =>
      obtain ⟨log, hlog, hall⟩ := h.asks
      refine ⟨log, hlog, Nat.le_of_eq (List.count_eq_zero.mpr fun hmem => hslots ?_)⟩
      obtain ⟨s, hs, rfl⟩ := List.mem_map.mp hmem
      exact hall s hs
  | trans _ _ ih ih' =>
      obtain ⟨log, hlog, hcount⟩ := ih
      obtain ⟨log', hlog', hcount'⟩ := ih'
      refine ⟨log ++ log', by rw [hlog', hlog, List.append_assoc], ?_⟩
      rw [List.map_append, List.count_append]
      exact Nat.add_le_add hcount hcount'

end Hands

/-! ## Waiting for good -/

/-- The router does not come back: after handing the command over so many times at most it makes
a request of a node that does not end, or the deadline of its caller comes before a pause is
over. -/
inductive Waits (c : Command) (most : Nat) (r : Router τ) : Router τ → Prop
  | request {n : Nat} {r₁ : Router τ} {a : Address} {cs : List Command} {p : Pool τ}
      (hn : n ≤ most) (hands : Hands c n r r₁)
      (h : Pool.requestMany a cs r₁.pool = (.stalled, p)) : Waits c most r { r₁ with pool := p }
  | pause {n : Nat} {r' : Router τ} (hn : n ≤ most) (hands : Hands c n r r')
      (hlimit : (Timed.clock r').deadline ≠ none) : Waits c most r r'

theorem Waits.after {m most total : Nat} (hands : Hands c m r r') (h : Waits c most r' r'')
    (htotal : m + most ≤ total) : Waits c total r r'' := by
  cases h with
  | request hn hands' h =>
      exact .request (Nat.le_trans (Nat.add_le_add_left hn m) htotal) (hands.trans hands') h
  | pause hn hands' hlimit =>
      exact .pause (Nat.le_trans (Nat.add_le_add_left hn m) htotal) (hands.trans hands') hlimit

/-- The command was handed over so many times at most, all that was sent is on the links, and
only a wait for good keeps the router from coming back. -/
structure Spent {α : Type} (c : Command) (most : Nat) (r : Router τ) (out : Outcome α)
    (r' : Router τ) : Prop where
  hands : ∃ n, n ≤ most ∧ Hands c n r r'
  accounted : ∀ [Transport.Lawful τ], r.pool.network.Accounted → r'.pool.network.Accounted
  waits : out = .stalled → Waits c most r r'

/-- Nothing was sent, and the router came back. -/
theorem Spent.nothing {α : Type} {out : Outcome α}
    (hcontacts : Contacts [] [] r.pool.network r'.pool.network)
    (hrest : r' = { r with slots := r'.slots, pool := r'.pool }) (hout : out ≠ .stalled) :
    Spent c 0 r out r' := by
  obtain ⟨log, hlog, hnone⟩ := hcontacts.sent
  obtain rfl := List.map_eq_nil_iff.mp hnone
  have hreloads : Reloads r r' := ⟨.of_eq (hlog.trans (List.append_nil _)), hrest⟩
  exact ⟨⟨0, Nat.le_refl 0, .reloads hreloads⟩, hcontacts.accounted, fun h => absurd h hout⟩

theorem Spent.mono {α : Type} {most total : Nat} {out : Outcome α} (h : Spent c most r out r')
    (htotal : most ≤ total) : Spent c total r out r' := by
  obtain ⟨n, hn, hands⟩ := h.hands
  refine ⟨⟨n, Nat.le_trans hn htotal, hands⟩, h.accounted, fun hout => ?_⟩
  exact (h.waits hout).after (.reloads (.refl r)) (by omega)

/-- Where the router stops it does not matter which value was due. -/
theorem Spent.stopped {α β : Type} {most : Nat} {stop : Option Failure}
    (h : Spent c most r (stopped stop : Outcome α) r') :
    Spent c most r (stopped stop : Outcome β) r' := by
  cases stop with
  | none => exact ⟨h.hands, h.accounted, fun _ => h.waits rfl⟩
  | some e => exact ⟨h.hands, h.accounted, by rintro ⟨⟩⟩

/-- What follows adds to what came before. -/
theorem Spent.after {α β : Type} {m n total : Nat} {out : Outcome α} {out' : Outcome β}
    (h : Spent c m r out r') (h' : Spent c n r' out' r'') (htotal : m + n ≤ total) :
    Spent c total r out' r'' := by
  obtain ⟨k, hk, hands⟩ := h.hands
  obtain ⟨k', hk', hands'⟩ := h'.hands
  refine ⟨⟨k + k', by omega, hands.trans hands'⟩, fun ha => h'.accounted (h.accounted ha), ?_⟩
  exact fun hout => (h'.waits hout).after hands (by omega)

/-- Whenever the action is run, it hands the command over so many times at most, and it comes
back unless it waits for good. -/
def Spends {α : Type} (c : Command) (most : Nat) (x : Action (Router τ) α) : Prop :=
  ∀ ⦃r out r'⦄, x r = (out, r') → Spent c most r out r'

namespace Spends

variable {α β : Type} {most total m n : Nat}

theorem mono {x : Action (Router τ) α} (hx : Spends c most x) (htotal : most ≤ total) :
    Spends c total x :=
  fun _ _ _ h => (hx h).mono htotal

theorem give (a : α) : Spends c 0 (pure a : Action (Router τ) α) := by
  intro r out r' h
  cases h
  exact .nothing (.refl _) rfl (by rintro ⟨⟩)

theorem fail (e : Failure) : Spends c 0 (Action.fail e : Action (Router τ) α) := by
  intro r out r' h
  cases h
  exact .nothing (.refl _) rfl (by rintro ⟨⟩)

theorem ofExcept (result : Except Failure α) :
    Spends c 0 (Action.ofExcept result : Action (Router τ) α) := by
  cases result with
  | ok a => exact give a
  | error e => exact fail e

theorem view (f : Router τ → α) : Spends c 0 (Action.view f : Action (Router τ) α) := by
  intro r out r' h
  cases h
  exact .nothing (.refl _) rfl (by rintro ⟨⟩)

theorem update {f : Router τ → Router τ}
    (hcontacts : ∀ r, Contacts [] [] r.pool.network (f r).pool.network)
    (hrest : ∀ r, f r = { r with slots := (f r).slots, pool := (f r).pool }) :
    Spends c 0 (Action.update f) := by
  intro r out r' h
  cases h
  exact .nothing (hcontacts r) (hrest r) (by rintro ⟨⟩)

theorem bind {x : Action (Router τ) α} {f : α → Action (Router τ) β} (hx : Spends c m x)
    (hf : ∀ a, Spends c n (f a)) : Spends c (m + n) (x >>= f) := by
  intro r out r' h
  rcases bind_cases h with ⟨a, r₁, hfirst, h⟩ | ⟨stop, hfirst, rfl⟩
  · exact (hx hfirst).after (hf a h) (Nat.le_refl _)
  · exact ((hx hfirst).mono (Nat.le_add_right m n)).stopped

theorem idle_bind {x : Action (Router τ) α} {f : α → Action (Router τ) β} (hx : Spends c 0 x)
    (hf : ∀ a, Spends c n (f a)) : Spends c n (x >>= f) :=
  (bind hx hf).mono (Nat.le_of_eq (Nat.zero_add n))

theorem bind_idle {x : Action (Router τ) α} {f : α → Action (Router τ) β} (hx : Spends c n x)
    (hf : ∀ a, Spends c 0 (f a)) : Spends c n (x >>= f) :=
  bind hx hf

theorem attempt {x : Action (Router τ) α} (hx : Spends c most x) :
    Spends c most (Action.attempt x) := by
  intro r out r' h
  rcases hfirst : x r with ⟨out', r₁⟩
  have hspent := hx hfirst
  cases out' with
  | ok a =>
      rw [attempt_of_ok hfirst] at h
      cases h
      exact ⟨hspent.hands, hspent.accounted, by rintro ⟨⟩⟩
  | error e =>
      rw [attempt_of_error hfirst] at h
      cases h
      exact ⟨hspent.hands, hspent.accounted, by rintro ⟨⟩⟩
  | stalled =>
      rw [attempt_of_stalled hfirst] at h
      cases h
      exact ⟨hspent.hands, hspent.accounted, fun _ => hspent.waits rfl⟩

end Spends

/-! ## One try -/

theorem spends_fetchSlots (node : Node) :
    Spends c 0 (onPool (fetchSlots node) : Action (Router τ) SlotMap) := by
  intro r out r' h
  obtain ⟨p, hfetch, rfl⟩ := within_eq h
  have hfetches := fetchSlots_fetches hfetch
  obtain ⟨answer, hasked⟩ := hfetches.asked
  obtain ⟨ds, sent, -, -, hcontacts⟩ := hasked.contacts
  have hreloads : Reloads r { r with pool := p } := .of_pool (fetchSlots_asks hfetch)
  refine ⟨⟨0, Nat.le_refl 0, .reloads hreloads⟩, hcontacts.accounted, ?_⟩
  rintro rfl
  cases hfetches with
  | hangs hasked =>
      rcases Pool.request_cases hasked.request with ⟨reply, hreply, -⟩ | ⟨stop, hstop, hmany⟩
      · cases hreply
      · cases stop with
        | none => exact .request (Nat.le_refl 0) (.reloads (.refl r)) hmany
        | some e => cases hstop

theorem spends_refreshFrom (nodes : List Node) (last : Failure) :
    Spends c 0 (refreshFrom nodes last : Action (Router τ) Unit) := by
  induction nodes generalizing last with
  | nil => exact .fail last
  | cons node nodes ih =>
      refine Spends.idle_bind (spends_fetchSlots node).attempt fun fetched => ?_
      cases fetched with
      | ok m => exact .update (fun r => .refl _) fun r => rfl
      | error e => exact ih e

theorem spends_refresh : Spends c 0 (refresh : Action (Router τ) Unit) :=
  Spends.idle_bind (.view _) fun _ => spends_refreshFrom _ _

theorem spends_route (slot : Nat) : Spends c 0 (route slot : Action (Router τ) Node) := by
  refine Spends.idle_bind (.view _) fun known => ?_
  cases known with
  | some node => exact .give node
  | none =>
      refine Spends.idle_bind spends_refresh fun _ => Spends.idle_bind (.view _) fun found => ?_
      cases found with
      | some node => exact .give node
      | none => exact .fail _

/-- Sending the command to a node hands it over once. -/
theorem spends_send (leg : Leg) :
    Spends c 1 (onPool (send leg.node c leg.asking) : Action (Router τ) Frame) := by
  intro r out r' h
  obtain ⟨p, hsend, rfl⟩ := within_eq h
  have hspent : ∀ {out : Outcome (List Frame)}, Tries c leg r.pool out p →
      Spent c 1 r out { r with pool := p } := by
    intro out htries
    obtain ⟨ds, sent, -, -, hcontacts, -⟩ := Pool.requestMany_contacts htries.request
    refine ⟨⟨1, Nat.le_refl 1, .tries htries⟩, hcontacts.accounted, ?_⟩
    rintro rfl
    exact .request (Nat.zero_le 1) (.reloads (.refl r)) htries.request
  rcases send_cases hsend with ⟨reply, rfl, hsends⟩ | ⟨e, reply, -, rfl, htries⟩ | ⟨stop, rfl, htries⟩
  · obtain ⟨before, hmany, -⟩ := hsends.answered
    have htried := hspent (tries_of hmany)
    exact ⟨htried.hands, htried.accounted, by rintro ⟨⟩⟩
  · have htried := hspent htries
    exact ⟨htried.hands, htried.accounted, by rintro ⟨⟩⟩
  · exact (hspent htries).stopped

theorem spends_reroute (node : Node) : Spends c 0 (reroute node : Action (Router τ) Unit) := by
  have hdrop : Spends c 0
      (update fun r : Router τ => { r with pool := r.pool.evict node.toAddress }) :=
    .update (fun r => Pool.evict_contacts _ _) fun r => rfl
  exact hdrop.idle_bind fun _ => Spends.idle_bind spends_refresh.attempt fun _ => .give ()

theorem spends_deliver (leg : Leg) :
    Spends c 1 (deliver leg.node c leg.asking : Action (Router τ) Frame) := by
  refine Spends.bind_idle (spends_send leg).attempt fun sent => ?_
  cases sent with
  | ok reply => exact .give reply
  | error e =>
      dsimp only
      split
      · exact Spends.idle_bind (spends_reroute leg.node) fun _ => .fail e
      · exact Spends.idle_bind (.give ()) fun _ => .fail e

theorem spends_heed (node : Node) (e : Failure) :
    Spends c 0 (heed node e : Action (Router τ) (Node × Bool)) := by
  have hlearn : ∀ slot next, Spends c 0 (learn slot next : Action (Router τ) Unit) := by
    intro slot next
    refine Spends.idle_bind (.view _) fun _ => Spends.idle_bind (.ofExcept _) fun _ => ?_
    exact .update (fun r => .refl _) fun r => rfl
  cases e with
  | moved slot address =>
      exact Spends.idle_bind (.ofExcept _) fun next => (hlearn slot next).idle_bind fun _ => .give _
  | ask slot address => exact Spends.idle_bind (.ofExcept _) fun next => .give _
  | _ => exact .fail _

/-- Each redirect that may be followed stands for one more time that the command may be handed
over. -/
theorem spends_follow (left : Nat) (leg : Leg) :
    Spends c (left + 1) (follow c left leg.node leg.asking : Action (Router τ) Frame) := by
  induction left generalizing leg with
  | zero =>
      refine Spends.bind_idle (spends_deliver leg) fun reply => ?_
      split
      · exact .give reply
      · exact .fail _
  | succ left ih =>
      rw [Nat.add_comm]
      refine Spends.bind (spends_deliver leg) fun reply => ?_
      split
      · exact (Spends.give reply).mono (Nat.zero_le _)
      · exact Spends.idle_bind (spends_heed leg.node _) fun next => ih ⟨next.1, next.2⟩

/-- One try hands the command over once, and once more for each redirect it may follow. -/
theorem executeOnce_spent (h : executeOnce slot c r = (out, r')) :
    Spent c (r.maxRedirects + 1) r out r' := by
  unfold executeOnce at h
  rw [view_bind] at h
  exact Spends.idle_bind (spends_route slot) (fun owner => spends_follow _ ⟨owner, false⟩) h

/-- An error reply that a try gives as data has nothing to do with routing. -/
theorem executeOnce_plain {e : ErrorReply} (h : executeOnce slot c r = (.ok (.error e), r')) :
    ∃ text, Redirect.classify e = .server text := by
  unfold executeOnce at h
  rw [view_bind] at h
  obtain ⟨owner, r₁, -, h⟩ := bind_eq_ok.mp h
  replace h : follow c r.maxRedirects (Leg.mk owner false).node false r₁ = _ := h
  obtain ⟨ds, last, r₂, -, -, hends⟩ := follow_trace h
  cases hends with
  | answered _ hplain => exact Redirect.classify_of_plain hplain
  | undelivered h =>
      obtain ⟨stop, hstop⟩ := h.stopped
      exact absurd hstop.symm stopped_ne_ok

/-! ## The whole call -/

/-- A pause between two tries sends nothing. -/
theorem pause_spent {nanos : Nat} {words : WordSource} {out : Outcome Unit}
    (h : RetryPolicy.pause false nanos (Timed.setWords words r) = (out, r')) :
    Spent c 0 r out r' := by
  have h : within Timed.clock Timed.setClock (Clock.wait (Clock.millis nanos))
      (Timed.setWords words r) = (out, r') := h
  obtain ⟨clock, hwait, rfl⟩ := within_eq h
  have hdeadline := Clock.wait_deadline (Clock.millis nanos)
    (Timed.clock (Timed.setWords words r))
  rw [hwait] at hdeadline
  have hreloads : Reloads r (Timed.setClock clock (Timed.setWords words r)) :=
    .of_pool (.of_eq rfl)
  refine ⟨⟨0, Nat.le_refl 0, .reloads hreloads⟩, fun ha => ha.of_eq rfl rfl, ?_⟩
  rintro rfl
  refine .pause (Nat.le_refl 0) (.reloads hreloads) fun hnone => ?_
  cases hdeadline.2 (hdeadline.1.symm.trans hnone)

/-- Each try has the same budget, because no try changes the limit of redirects. -/
theorem calls_spent {policy : RetryPolicy} {left failures : Nat}
    (h : RetryPolicy.Calls policy false (fun _ => executeOnce slot c) left failures r out r') :
    Spent c ((left + 1) * (r.maxRedirects + 1)) r out r' := by
  induction h with
  | givenUp hheedful => cases hheedful
  | last _ htry => exact (executeOnce_spent htry).mono (Nat.le_mul_of_pos_left _ (Nat.succ_pos _))
  | @again left _ _ _ s s₁ s₂ _ _ _ _ _ htry _ hpause _ ih =>
      have hspent := (executeOnce_spent htry).after (pause_spent hpause) (Nat.le_refl _)
      obtain ⟨n, -, hhands⟩ := hspent.hands
      rw [hhands.maxRedirects] at ih
      refine hspent.after ih ?_
      rw [Nat.succ_mul (left + 1)]
      omega
  | interrupted _ htry _ hpause =>
      have hspent := (executeOnce_spent htry).after (pause_spent hpause) (Nat.le_refl _)
      exact hspent.stopped.mono (Nat.le_mul_of_pos_left _ (Nat.succ_pos _))

/-- A call keeps within a budget: it hands its command over at most so many times, gives no
error reply about routing as data, and comes back unless it waits for good. -/
structure WithinBudget (budget : Nat) (c : Command) (r : Router τ) (out : Outcome Frame)
    (r' : Router τ) : Prop where
  hands : ∃ n, n ≤ budget ∧ Hands c n r r'
  /-- Unless the router sends such a command itself, the record of the network says as much. -/
  sent : c ≠ .clusterSlots → c ≠ .asking → ∃ log,
    r'.pool.network.sent = r.pool.network.sent ++ log ∧ (log.map (·.command)).count c ≤ budget
  /-- That record agrees with the bytes on the links, if it did before. -/
  accounted : ∀ [Transport.Lawful τ], r.pool.network.Accounted → r'.pool.network.Accounted
  plain : ∀ e, out = .ok (.error e) → ∃ text, Redirect.classify e = .server text
  waits : out = .stalled → Waits c budget r r'
  /-- So the call comes back if all connects, writes and reads end. -/
  returns : Answering r → out ≠ .stalled

/-- **Routing ends within its budget.** Whatever the servers answer, and even if they
redirect the command to each other for ever, a call hands it over at most once for each try
that the policy allows and each redirect that a try may follow. Then it comes back, unless a
request that it makes of a node does not end. An error reply about routing is a failure, never
data. -/
theorem execute_withinBudget [Transport.Lawful τ] (key : Bytes) (c : Command) (r : Router τ) :
    WithinBudget ((r.retry.maxRetries + 1) * (r.maxRedirects + 1)) c r
      (execute key c r).1 (execute key c r).2 := by
  rcases h : execute key c r with ⟨out, r'⟩
  show WithinBudget _ c r out r'
  have hcalls := RetryPolicy.callFrom_calls h
  have hspent := calls_spent hcalls
  constructor
  · exact hspent.hands
  · intro hslots hasking
    obtain ⟨n, hn, hhands⟩ := hspent.hands
    obtain ⟨log, hlog, hcount⟩ := hhands.sent hslots hasking
    exact ⟨log, hlog, Nat.le_trans hcount hn⟩
  · exact hspent.accounted
  · rintro e rfl
    obtain ⟨n, s, htry⟩ := hcalls.of_ok
    exact executeOnce_plain htry
  · exact hspent.waits
  · intro hr
    exact ((ends_execute key c hr).outcome h).1

/-- Two servers that redirect to each other for ever. -/
def pingPong : Router where
  seeds := []
  slots := ⟨[⟨0, 16383, { host := "a", port := 1 }⟩]⟩
  maxRedirects := 1
  retry := { backoff := .none, maxRetries := 1, retryable := [.redirect] }
  pool.network.scripts :=
    let moved (address : String) := Utf8.encode ("-MOVED 0 " ++ address ++ "\r\n")
    [("a:1", [{ greeting := .accepts (moved "b:2" ++ moved "b:2") .closed }]),
     ("b:2", [{ greeting := .accepts (moved "a:1" ++ moved "a:1") .closed }])]

theorem pingPong_answering : Answering pingPong := by
  have haccepts : ∀ entry ∈ pingPong.pool.network.scripts, ∀ script ∈ entry.2,
      ∃ input, script.greeting = .accepts input .closed := by
    simp only [pingPong, List.forall_mem_cons, List.not_mem_nil, false_implies, implies_true, and_true]
    exact ⟨⟨_, rfl⟩, _, rfl⟩
  refine ⟨⟨rfl, fun entry hentry script hscript => ?_, fun line hline => by cases hline⟩, rfl⟩
  obtain ⟨input, hinput⟩ := haccepts entry hentry script hscript
  rw [hinput]
  exact fun address => MemoryLink.answering_of_closed rfl

/-- Two tries of two sends each use the budget up, and the call returns. -/
theorem execute_withinBudget_pingPong :
    Answering pingPong ∧ (execute [] .ping pingPong).1 ≠ .stalled ∧
      (pingPong.retry.maxRetries + 1) * (pingPong.maxRedirects + 1) = 4 ∧
      ((execute [] .ping pingPong).2.pool.network.sent.map (·.command)).count .ping = 4 := by
  refine ⟨pingPong_answering, ?_, rfl, by decide +kernel⟩
  exact (execute_withinBudget [] .ping pingPong).returns pingPong_answering

/-- A router whose only node takes commands and never answers. No deadline limits its calls. -/
def silentNode : Router where
  seeds := []
  slots := ⟨[⟨0, 16383, { host := "h", port := 1 }⟩]⟩
  pool.network.scripts := [("h:1", [{ greeting := .accepts [] .silent }])]

/-- The command is sent to the node once, and the call never comes back. -/
theorem execute_silentNode :
    silentNode.pool.network.clock.deadline = none ∧
      (execute [] .ping silentNode).1 = .stalled ∧
      (execute [] .ping silentNode).2.pool.network.sent.map (·.command) = [.ping] :=
  ⟨rfl, by rfl, by decide +kernel⟩

end Router

end RespClient
