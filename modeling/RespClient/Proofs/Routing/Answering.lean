import RespClient.Routing.Router
import RespClient.Proofs.Pool.Answering
import RespClient.Proofs.Retry.Call

/-!
# Routing over networks that answer

Over a network that answers everything that a router does ends, although its servers may
redirect each other's commands for ever: redirects, tries and nodes to ask for a slot map
are counted, and each of them takes one batch of commands.
-/

namespace RespClient.Router

open RespClient.Action

variable {τ : Type} [Transport τ]

/-- All that the router can wait for comes to an end. -/
def Answering (r : Router τ) : Prop :=
  r.pool.Answering

theorem ends_onPool {α : Type} {x : Action (Pool τ) α} (hx : Action.Ends Pool.Answering x) :
    Action.Ends Answering (onPool x : Action (Router τ) α) :=
  hx.within (fun _ hr => hr) fun _ _ _ hp => hp

theorem ends_pause (nanos : Nat) {r : Router τ} (hr : Answering r) :
    EndsAt Answering (RetryPolicy.pause false nanos) r := by
  obtain ⟨hends, hn⟩ := Network.ends_wait (Clock.millis nanos) hr.network
  exact ⟨hends, hn, hr.free⟩

variable [Transport.Lawful τ]

theorem ends_fetchSlots (node : Node) :
    Action.Ends Pool.Answering (fetchSlots node : Action (Pool τ) SlotMap) :=
  (Pool.ends_request _ _).bind fun _ => (Ends.ofExcept _).bind fun _ => .ofExcept _

theorem ends_refreshFrom (nodes : List Node) (last : Failure) :
    Action.Ends Answering (refreshFrom nodes last : Action (Router τ) Unit) := by
  induction nodes generalizing last with
  | nil => exact .fail last
  | cons node nodes ih =>
      refine (ends_onPool (ends_fetchSlots node)).attempt.bind fun fetched => ?_
      cases fetched with
      | ok m => exact .update fun r hr => hr.retain m.nodes
      | error e => exact ih e

theorem ends_refresh : Action.Ends Answering (refresh : Action (Router τ) Unit) :=
  (Ends.view _).bind fun _ => ends_refreshFrom _ _

theorem ends_route (slot : Nat) :
    Action.Ends Answering (route slot : Action (Router τ) Node) := by
  refine (Ends.view _).bind fun known => ?_
  cases known with
  | some node => exact .give node
  | none =>
      refine ends_refresh.bind fun _ => (Ends.view _).bind fun found => ?_
      cases found with
      | some node => exact .give node
      | none => exact .fail _

theorem ends_send (node : Node) (c : Command) (asking : Bool) :
    Action.Ends Pool.Answering (send node c asking : Action (Pool τ) Frame) := by
  unfold send
  split
  · refine (Pool.ends_requestMany _ _).bind fun replies => ?_
    split
    · exact .fail _
    · exact .give _
  · exact Pool.ends_request _ _

theorem ends_reroute (node : Node) :
    Action.Ends Answering (reroute node : Action (Router τ) Unit) := by
  have hdrop : Action.Ends Answering
      (update fun r : Router τ => { r with pool := r.pool.evict node.toAddress }) :=
    .update fun r hr => hr.evict node.toAddress
  exact hdrop.bind fun _ => ends_refresh.attempt.bind fun _ => .give ()

theorem ends_deliver (node : Node) (c : Command) (asking : Bool) :
    Action.Ends Answering (deliver node c asking : Action (Router τ) Frame) := by
  refine (ends_onPool (ends_send node c asking)).attempt.bind fun sent => ?_
  cases sent with
  | ok reply => exact .give reply
  | error e =>
      dsimp only
      split
      · exact (ends_reroute node).bind fun _ => .fail e
      · exact Ends.bind (.give ()) fun _ => .fail e

omit [Transport.Lawful τ] in
theorem ends_heed (node : Node) (e : Failure) :
    Action.Ends Answering (heed node e : Action (Router τ) (Node × Bool)) := by
  have hlearn : ∀ slot next, Action.Ends Answering (learn slot next : Action (Router τ) Unit) :=
    fun slot next => (Ends.view _).bind fun _ => (Ends.ofExcept _).bind fun _ =>
      .update fun _ hr => hr
  cases e with
  | moved slot address =>
      exact (Ends.ofExcept _).bind fun next => (hlearn slot next).bind fun _ => .give _
  | ask slot address => exact (Ends.ofExcept _).bind fun next => .give _
  | _ => exact .fail _

theorem ends_follow (c : Command) (left : Nat) (node : Node) (asking : Bool) :
    Action.Ends Answering (follow c left node asking : Action (Router τ) Frame) := by
  induction left generalizing node asking with
  | zero =>
      refine (ends_deliver node c asking).bind fun reply => ?_
      split
      · exact .give reply
      · exact .fail _
  | succ left ih =>
      refine (ends_deliver node c asking).bind fun reply => ?_
      split
      · exact .give reply
      · exact (ends_heed node _).bind fun next => ih next.1 next.2

theorem ends_executeOnce (slot : Nat) (c : Command) :
    Action.Ends Answering (executeOnce slot c : Action (Router τ) Frame) :=
  (Ends.view _).bind fun _ => (ends_route slot).bind fun owner => ends_follow c _ owner false

/-- Whatever the servers answer, a routed command ends. -/
theorem ends_execute (key : Bytes) (c : Command) :
    Action.Ends Answering (execute key c : Action (Router τ) Frame) := by
  refine (Ends.view _).bind fun policy => ?_
  refine RetryPolicy.ends_callFrom (fun _ => ends_executeOnce _ c) fun nanos words r hr => ?_
  exact ends_pause nanos ⟨⟨hr.network.unlimited, hr.network.scripts, hr.network.lines⟩, hr.free⟩

end RespClient.Router
