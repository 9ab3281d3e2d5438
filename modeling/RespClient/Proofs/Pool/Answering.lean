import RespClient.Proofs.Pool.Exchange
import RespClient.Proofs.Wire.Answering

/-!
# Networks that answer

A network answers if every connect that is still to come ends and every link answers. What
a pool does over such a network ends: in a value or in a failure, never in waiting for good.
A deadline of the caller or a link that somebody else holds could still stop it, so there
must be neither.
-/

namespace RespClient

open RespClient.Action Transport

variable {τ : Type} [Transport τ]

/-- The connect ends, and a link that it opens answers. -/
def Greeting.Answering : Greeting τ → Prop
  | .opens link => ∀ address, Transport.Answering (link address)
  | .hangs => False
  | .fails _ => True

namespace Network

variable {n : Network τ} {id : Nat} {address : String}

/-- All that the client can wait for in this network comes to an end. -/
structure Answering (n : Network τ) : Prop where
  unlimited : n.clock.deadline = none
  scripts : ∀ entry ∈ n.scripts, ∀ script ∈ entry.2, script.greeting.Answering
  lines : ∀ line ∈ n.lines, Transport.Answering line.link

/-- Without a deadline every wait comes to an end. -/
theorem ends_waitUntil (moment : Nat) :
    Ends Answering (Timed.onClock (Clock.waitUntil moment) : Action (Network τ) Unit) := by
  intro n hn
  have hbeyond : (Timed.clock n).isBeyond moment = false := by
    show n.clock.deadline.any _ = false
    rw [hn.unlimited]
    rfl
  have hwait : (Timed.onClock (Clock.waitUntil moment) : Action (Network τ) Unit) n =
      (.ok (), { n with clock := { n.clock with now := max n.clock.now moment } }) := by
    unfold Timed.onClock Action.within Clock.waitUntil
    rw [hbeyond]
    rfl
  exact endsAt_of_ok hwait ⟨hn.unlimited, hn.scripts, hn.lines⟩

theorem ends_wait (millis : Nat) :
    Ends Answering (Timed.onClock (Clock.wait millis) : Action (Network τ) Unit) :=
  fun n hn => ends_waitUntil (n.clock.now + millis) hn

theorem ends_greet {g : Greeting τ} (hg : g.Answering) : Ends Answering (greet address g) := by
  cases g with
  | opens link =>
      intro n hn
      refine endsAt_of_ok rfl ⟨hn.unlimited, hn.scripts, fun line hline => ?_⟩
      rcases List.mem_append.mp hline with hline | hline
      · exact hn.lines line hline
      · rw [List.mem_singleton.mp hline]
        exact hg address
  | hangs => exact hg.elim
  | fails failure => exact .fail _

theorem ends_connect (address : String) : Ends Answering (connect address : Action (Network τ) Nat) := by
  intro n hn
  rcases htake : takeScript address n.scripts with ⟨found, rest⟩
  obtain ⟨hfound, hrest⟩ := mem_of_takeScript htake
  have hdialled : (n.dial address).2.Answering ∧ (n.dial address).1.greeting.Answering := by
    unfold dial
    rw [htake]
    refine ⟨⟨?_, fun entry hentry script hscript => ?_, hn.lines⟩, ?_⟩
    · have hunlimited := hn.unlimited
      have hcancel : n.clock.cancel.deadline = n.clock.deadline := by
        unfold Clock.cancel
        split <;> rfl
      dsimp only
      split
      · rw [hcancel, hunlimited]
      · exact hunlimited
    · obtain ⟨entry', hentry', hsub⟩ := hrest entry hentry
      exact hn.scripts entry' hentry' script (hsub hscript)
    · cases found with
      | none => exact trivial
      | some script =>
          obtain ⟨entry, hentry, hscript⟩ := hfound script rfl
          exact hn.scripts entry hentry script hscript
  exact ((ends_wait _).bind fun _ => ends_greet hdialled.2) hdialled.1

theorem Answering.modifyLink (hn : n.Answering) {f : τ → τ}
    (hf : ∀ line, n.lines[id]? = some line → Transport.Answering (f line.link)) :
    (n.modifyLink id f).Answering := by
  refine ⟨hn.unlimited, hn.scripts, fun line hline => ?_⟩
  obtain ⟨j, hj⟩ := List.getElem?_of_mem hline
  by_cases hid : j = id
  · subst hid
    rw [modifyLink_self] at hj
    obtain ⟨old, hold, rfl⟩ := Option.map_eq_some_iff.mp hj
    exact hf old hold
  · rw [modifyLink_touches.others j hid] at hj
    exact hn.lines line (List.mem_of_getElem? hj)

theorem Answering.disconnect (hn : n.Answering) (id : Nat) : (n.disconnect id).Answering :=
  hn.modifyLink fun _ hline =>
    responsive_answering.disconnect _ (hn.lines _ (List.mem_of_getElem? hline))

theorem ends_onLink {α : Type} {x : Action τ α} (hx : Ends Transport.Answering x) (id : Nat) :
    Ends Answering (onLink id x : Action (Network τ) α) := by
  intro n hn
  rcases hlink : n.link? id with _ | l
  · refine endsAt_of_error (e := unopened) ?_ hn
    unfold onLink
    rw [hlink]
  · obtain ⟨line, hline, rfl⟩ := Option.map_eq_some_iff.mp hlink
    have hkept : ∀ l : τ, Transport.Answering l → (n.modifyLink id fun _ => l).Answering :=
      fun l hl => hn.modifyLink fun _ _ => hl
    rcases (hx (hn.lines line (List.mem_of_getElem? hline))).cases with
      ⟨a, l, h, hl⟩ | ⟨e, l, h, hl⟩
    · have hon : onLink id x n = (.ok a, n.modifyLink id fun _ => l) := by
        unfold onLink
        simp only [hlink, h]
      exact endsAt_of_ok hon (hkept l hl)
    · have hon : onLink id x n = (.error e, n.modifyLink id fun _ => l) := by
        unfold onLink
        simp only [hlink, h]
      exact endsAt_of_error hon (hkept l hl)

theorem ends_request [Lawful τ] (id : Nat) (c : Command) :
    Ends Answering (request id c : Action (Network τ) Frame) := by
  have hsend : Ends Answering (send id c : Action (Network τ) Unit) :=
    (ends_onLink (responsive_answering.write _) id).bind fun _ =>
      .update fun n hn => ⟨hn.unlimited, hn.scripts, hn.lines⟩
  exact hsend.bind fun _ => (Ends.view _).bind fun d => ends_onLink d.ends_decode id

end Network

/-! ## Pools -/

namespace Pool

variable {p : Pool τ} {a : Address}

/-- All that the pool can wait for comes to an end. -/
structure Answering (p : Pool τ) : Prop where
  network : p.network.Answering
  free : p.held = none

theorem ends_onNetwork {α : Type} {x : Action (Network τ) α} (hx : Ends Network.Answering x) :
    Ends Answering (onNetwork x : Action (Pool τ) α) :=
  hx.within (fun _ hp => hp.network) fun _ _ hp hn => ⟨hn, hp.free⟩

theorem ends_get (a : Address) : Ends Answering (get a : Action (Pool τ) Nat) := by
  intro p hp
  have hadopt : ∀ id, Ends Answering (adopt a id : Action (Pool τ) Nat) := by
    intro id q hq
    unfold EndsAt adopt
    split
    · exact ⟨by rintro ⟨⟩, hq⟩
    · exact ⟨by rintro ⟨⟩, hq.network, hq.free⟩
  rcases hfind : p.findLive? a with _ | id
  · have hconnect := (ends_onNetwork (Network.ends_connect a.text)).bind hadopt hp
    rwa [EndsAt, get, hfind]
  · refine endsAt_of_ok (a := id) ?_ hp
    rw [get, hfind]

theorem Answering.evict (hp : p.Answering) (a : Address) : (p.evict a).Answering := by
  refine ⟨?_, hp.free⟩
  unfold Pool.evict
  dsimp only
  split
  · split
    · exact hp.network
    · exact hp.network.disconnect _
  · exact hp.network

theorem Answering.retain (hp : p.Answering) (keep : List Node) : (p.retain keep).Answering :=
  ⟨hp.network, hp.free⟩

theorem ends_exchangeAll [Lawful τ] (id : Nat) (cs : List Command) (done : List Frame) :
    Ends Answering (exchangeAll id cs done : Action (Pool τ) (List Frame)) := by
  induction cs generalizing done with
  | nil => exact .give _
  | cons c cs ih => exact (ends_onNetwork (Network.ends_request id c)).bind fun reply => ih _

/-- Over a network that answers every batch of commands ends. -/
theorem ends_requestMany [Lawful τ] (a : Address) (cs : List Command) :
    Ends Answering (requestMany a cs : Action (Pool τ) (List Frame)) := by
  refine (ends_get a).bind fun id => Ends.bind ?_ fun _ => ?_
  · intro p hp
    have hfree : p.isHeld id = false := by rw [isHeld, hp.free]; rfl
    exact endsAt_of_ok (acquire_of_free hfree) hp
  · intro p hp
    rcases (ends_exchangeAll id cs [] hp).cases with ⟨rs, p', h, hp'⟩ | ⟨e, p', h, hp'⟩
    · refine endsAt_of_ok (a := rs) ?_ hp'
      unfold orEvict
      rw [h]
    · have hevict : (if e.breaksLink then p'.evict a else p').Answering := by
        split
        · exact hp'.evict a
        · exact hp'
      refine endsAt_of_error (e := e) ?_ hevict
      unfold orEvict
      rw [h]

theorem ends_request [Lawful τ] (a : Address) (c : Command) :
    Ends Answering (request a c : Action (Pool τ) Frame) :=
  (ends_requestMany a [c]).bind fun _ => .give _

end Pool

end RespClient
