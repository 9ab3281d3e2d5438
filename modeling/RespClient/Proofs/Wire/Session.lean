import RespClient.Wire.Exchange
import RespClient.Proofs.Pipe.Connection
import RespClient.Wire.FrameStream

/-!
# Sessions

A session is one link that serves requests one after another. At any moment it is idle
or it has an open stream. Between two requests bytes may arrive; what arrives while a
request is served is in the plan of a pipe from the beginning. A session with all that
has happened in it is a run.
-/

namespace RespClient

open Transport

variable {τ : Type}

/-- A link between two requests. -/
inductive Session (τ : Type)
  | idle (t : τ)
  | streaming (s : FrameStream τ)

/-- What a session can be asked. An open stream is asked for elements until it is
drained, closed or dropped. -/
inductive Request
  | decode (d : Decoder)
  | exchange (d : Decoder) (c : Command)
  | openStream (d : Decoder)
  | next
  | drain
  | close
  | drop

/-- What a session answers. -/
inductive Answer
  | frame (f : Frame)
  | opened (kind : AggregateKind) (remaining : Nat)
  | element (f : Option Frame)
  | drained (skipped : Nat)
  | closed
  | dropped (unread : Nat)

/-- What happens in a session. -/
inductive Event
  | answered (q : Request) (a : Answer)
  | failed (q : Request) (e : Failure)
  | arrived (bytes : Bytes)

namespace Outcome

/-- Turns the value of an outcome into something else. -/
def map {α β : Type} (f : α → β) : Outcome α → Outcome β
  | .ok a => .ok (f a)
  | .error e => .error e
  | .stalled => .stalled

variable {α β : Type} {f : α → β} {r : Outcome α}

theorem map_eq_ok {b : β} : r.map f = .ok b ↔ ∃ a, r = .ok a ∧ f a = b := by
  cases r <;> simp [map]

theorem map_eq_error {e : Failure} : r.map f = .error e ↔ r = .error e := by
  cases r <;> simp [map]

end Outcome

namespace Session

/-- The link, whoever holds it. -/
def link : Session τ → τ
  | .idle t => t
  | .streaming s => s.source

/-- The same session over another state of its link. -/
def relink (t : τ) : Session τ → Session τ
  | .idle _ => .idle t
  | .streaming s => .streaming { s with source := t }

theorem link_relink (t : τ) (s : Session τ) : (s.relink t).link = t := by
  cases s <;> rfl

variable [Transport τ]

/-- Serves a request, if it is one for this moment. -/
def serve : Request → Session τ → Option (Outcome Answer × Session τ)
  | .decode d, .idle t => some ((d.decode t).1.map .frame, .idle (d.decode t).2)
  | .exchange d c, .idle t => some ((exchange d c t).1.map .frame, .idle (exchange d c t).2)
  | .openStream d, .idle t =>
    match d.openStream t with
    | (.ok (.whole f), t) => some (.ok (.frame f), .idle t)
    | (.ok (.stream kind n), t) => some (.ok (.opened kind n), .streaming ⟨d, kind, n, t⟩)
    | (.error e, t) => some (.error e, .idle t)
    | (.stalled, t) => some (.stalled, .idle t)
  | .next, .streaming s => some (s.next.1.map .element, .streaming s.next.2)
  | .drain, .streaming s => some (s.drain.1.map .drained, .idle s.drain.2.drop)
  | .close, .streaming s => some (.ok .closed, .idle s.close)
  | .drop, .streaming s => some (.ok (.dropped s.remaining), .idle s.drop)
  | _, _ => none

/-- The ways in which a request is answered. -/
inductive Served : Session τ → Request → Answer → Session τ → Prop
  | decode {d : Decoder} {t t' : τ} {f : Frame} (h : d.decode t = (.ok f, t')) :
      Served (.idle t) (.decode d) (.frame f) (.idle t')
  | exchange {d : Decoder} {c : Command} {t t' : τ} {f : Frame}
      (h : exchange d c t = (.ok f, t')) :
      Served (.idle t) (.exchange d c) (.frame f) (.idle t')
  | whole {d : Decoder} {t t' : τ} {f : Frame} (h : d.openStream t = (.ok (.whole f), t')) :
      Served (.idle t) (.openStream d) (.frame f) (.idle t')
  | opened {d : Decoder} {t t' : τ} {kind : AggregateKind} {n : Nat}
      (h : d.openStream t = (.ok (.stream kind n), t')) :
      Served (.idle t) (.openStream d) (.opened kind n) (.streaming ⟨d, kind, n, t'⟩)
  | element {s s' : FrameStream τ} {f : Option Frame} (h : s.next = (.ok f, s')) :
      Served (.streaming s) .next (.element f) (.streaming s')
  | drained {s s' : FrameStream τ} {n : Nat} (h : s.drain = (.ok n, s')) :
      Served (.streaming s) .drain (.drained n) (.idle s'.drop)
  | closed {s : FrameStream τ} : Served (.streaming s) .close .closed (.idle s.close)
  | dropped {s : FrameStream τ} :
      Served (.streaming s) .drop (.dropped s.remaining) (.idle s.drop)

theorem served_of_serve {s s' : Session τ} {q : Request} {a : Answer}
    (h : s.serve q = some (.ok a, s')) : Served s q a s' := by
  cases s with
  | idle t =>
      cases q with
      | decode d =>
          obtain ⟨hr, rfl⟩ := Prod.mk.inj (Option.some.inj h)
          obtain ⟨f, hf, rfl⟩ := Outcome.map_eq_ok.mp hr
          exact .decode (Prod.ext hf rfl)
      | exchange d c =>
          obtain ⟨hr, rfl⟩ := Prod.mk.inj (Option.some.inj h)
          obtain ⟨f, hf, rfl⟩ := Outcome.map_eq_ok.mp hr
          exact .exchange (Prod.ext hf rfl)
      | openStream d =>
          rw [serve] at h
          split at h
          · rename_i hopen
            cases h
            exact .whole hopen
          · rename_i hopen
            cases h
            exact .opened hopen
          · cases h
          · cases h
      | _ => cases h
  | streaming s =>
      cases q with
      | next =>
          obtain ⟨hr, rfl⟩ := Prod.mk.inj (Option.some.inj h)
          obtain ⟨f, hf, rfl⟩ := Outcome.map_eq_ok.mp hr
          exact .element (Prod.ext hf rfl)
      | drain =>
          obtain ⟨hr, rfl⟩ := Prod.mk.inj (Option.some.inj h)
          obtain ⟨n, hn, rfl⟩ := Outcome.map_eq_ok.mp hr
          exact .drained (Prod.ext hn rfl)
      | close =>
          cases h
          exact .closed
      | drop =>
          cases h
          exact .dropped
      | _ => cases h

/-- The link was given up. -/
def Gone (s : Session τ) : Prop :=
  isConnected s.link = false

end Session

variable [Transport τ] [Lawful τ]

/-- Bytes arrive at a link: they come behind all that can still be read, and nothing
else changes that can be told from outside. A link that was given up takes nothing. -/
def Transport.Arrives (t : τ) (bytes : Bytes) (t' : τ) : Prop :=
  isConnected t' = isConnected t ∧
    (isConnected t = true → Lawful.upcoming t' = Lawful.upcoming t ++ bytes)

/-- What is fed to a link in memory arrives there. -/
theorem MemoryLink.arrives_feed (l : MemoryLink) (bytes : Bytes) : Arrives l bytes (l.feed bytes) :=
  ⟨rfl, fun _ => rfl⟩

/-- What a peer does besides, it does behind all that it was to do. -/
theorem Connection.exists_arrives_plan (c : Connection) (more : List PeerAction) :
    ∃ bytes, Arrives c bytes { c with pipe := { c.pipe with plan := c.pipe.plan ++ more } } := by
  obtain ⟨bytes, hplan⟩ := Pipe.exists_announced_append c.pipe.plan more
  by_cases hended : c.pipe.ended = true
  · refine ⟨[], rfl, fun _ => ?_⟩
    simp [Lawful.upcoming, upcoming, Pipe.upcoming, hended]
  · refine ⟨bytes, rfl, fun _ => ?_⟩
    simp [Lawful.upcoming, upcoming, Pipe.upcoming, hended, hplan]

/-- While time passes nothing is lost and nothing comes that was not to come. -/
theorem Connection.arrives_pass (c : Connection) (millis : Nat) :
    Arrives c [] { c with pipe := c.pipe.pass millis } := by
  refine ⟨rfl, fun _ => ?_⟩
  show c.buffer ++ (c.pipe.pass millis).upcoming = c.buffer ++ c.pipe.upcoming ++ []
  rw [Pipe.pass, Pipe.wait_upcoming, List.append_nil]

/-- One event of a session. A request that stalls is never over and is no event. -/
inductive Session.Step : Session τ → Event → Session τ → Prop
  | answered {s s' : Session τ} {q : Request} {a : Answer} (h : s.serve q = some (.ok a, s')) :
      Step s (.answered q a) s'
  | failed {s s' : Session τ} {q : Request} {e : Failure} (h : s.serve q = some (.error e, s')) :
      Step s (.failed q e) s'
  | arrived {s : Session τ} {t' : τ} {bytes : Bytes} (h : Arrives s.link bytes t') :
      Step s (.arrived bytes) (s.relink t')

/-- A session from its beginning, with all that has happened in it. -/
inductive Session.Run (s₀ : Session τ) : List Event → Session τ → Prop
  | start : Run s₀ [] s₀
  | step {es : List Event} {e : Event} {s s' : Session τ} (h : Run s₀ es s) (hs : s.Step e s') :
      Run s₀ (es ++ [e]) s'

namespace Event

/-- The bytes that an event brings. -/
def input : Event → Bytes
  | .arrived bytes => bytes
  | _ => []

/-- The reply that an event takes up: who reads it, and the frame that it was read as,
unless it is read lazily. -/
def reply : Event → List (Decoder × Option Frame)
  | .answered (.decode d) (.frame f) => [(d, some f)]
  | .answered (.exchange d _) (.frame f) => [(d, some f)]
  | .answered (.openStream d) (.frame f) => [(d, some f)]
  | .answered (.openStream d) (.opened _ _) => [(d, none)]
  | _ => []

/-- Does the link end here? It does with a failure, and with a stream that is closed or
dropped before its end. -/
def Final : Event → Prop
  | .failed _ _ => True
  | .answered _ .closed => True
  | .answered _ (.dropped unread) => 0 < unread
  | _ => False

/-- Does the event give a frame, or the prospect of one? -/
def Yields : Event → Prop
  | .answered _ (.frame _) => True
  | .answered _ (.opened _ _) => True
  | .answered _ (.element (some _)) => True
  | _ => False

end Event

end RespClient
