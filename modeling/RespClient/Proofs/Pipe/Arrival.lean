import RespClient.Proofs.Pipe.Connection

/-!
# Bytes as they arrive

A connection delivers a byte string if its peer is still to send what has not arrived of it, and
no read is limited in time. Behind the string the peer ends its side or is silent for ever. However
it cuts what it sends, and however little the pipe holds, the bytes come one by one in their
order, and what comes behind the last one is the end of the connection or nothing at all. So a
reader that takes bytes up to a line feed, so many at most, stops at a place that the string
alone decides.
-/

namespace RespClient

namespace Pipe

/-- Does the peer end its sending side at last? -/
def finishes : List PeerAction → Bool
  | [] => false
  | .finish :: _ => true
  | .close :: _ => true
  | .send _ :: rest => finishes rest
  | .sleep _ :: rest => finishes rest

/-- The peer has ended its sending side, or it will. -/
def Ending (p : Pipe) : Prop :=
  p.ended = true ∨ finishes p.plan = true

variable {p p' : Pipe} {wake : Wake}

/-! ## Waiting without a limit -/

/-- How a wait for something to read ends: something is there, or the peer is done and has not
ended its side. -/
inductive Settled : Wake → Pipe → Prop
  | ready {p : Pipe} (h : p.isReadable = true) : Settled .ready p
  | never {p : Pipe} (hup : p.upcoming = []) (hends : ¬p.Ending) : Settled .never p

theorem readable_of_ended (h : p.ended = true) : p.isReadable = true := by
  rw [isReadable, h, Bool.or_true]

theorem idle_of_readable {deadline : Option Nat} (h : p.isReadable = true) :
    idle isReadable deadline p = (.ready, p) :=
  if_pos h

/-- A client that waits for a peer with no plan left gets what has come already. -/
theorem idle_settles (hplan : p.plan = []) :
    ∃ wake, idle isReadable none p = (wake, p) ∧ Settled wake p := by
  cases hready : p.isReadable with
  | true => exact ⟨.ready, idle_of_readable hready, .ready hready⟩
  | false =>
      have hnone : p.incoming = [] ∧ p.ended = false := by simpa [isReadable] using hready
      refine ⟨.never, by simp [idle, hready], .never ?_ ?_⟩
      · simp [upcoming, announced, hnone, hplan]
      · simp [Ending, finishes, hnone.2, hplan]

/-- A client that waits without a limit for something to read gets it whenever it is to come, if
there is room for a byte. -/
theorem waitFrom_settles (plan : List PeerAction) (p : Pipe)
    (hroom : p.ended = false → announced plan ≠ [] → 0 < p.capacity) :
    ∃ wake p', waitFrom isReadable none plan p = (wake, p') ∧ Settled wake p' ∧
      (p'.Ending ↔ p.ended = true ∨ finishes plan = true) ∧ p'.capacity = p.capacity := by
  induction plan generalizing p with
  | nil =>
      obtain ⟨wake, hidle, hsettled⟩ := idle_settles (p := { p with plan := [] }) rfl
      exact ⟨wake, _, hidle, hsettled, Iff.rfl, rfl⟩
  | cons action rest ih =>
      cases action with
      | send bytes =>
          rw [waitFrom]
          split
          · rename_i hended
            exact ih p fun h => absurd hended (by rw [h]; decide)
          · rename_i hended
            have hended : p.ended = false := by simpa using hended
            dsimp only
            split
            · refine ih _ fun _ hrest => hroom hended ?_
              rw [announced]
              exact List.append_ne_nil_of_right_ne_nil _ hrest
            · -- what does not fit is not empty, so some of it does
              rename_i hlarge
              have hbytes : bytes ≠ [] := by
                rintro rfl
                exact hlarge (Nat.zero_le _)
              have hcapacity : 0 < p.capacity := hroom hended (by simp [announced, hbytes])
              have hready : ({ p with
                  incoming := p.incoming ++ bytes.take (p.capacity - p.incoming.length)
                  plan := .send (bytes.drop (p.capacity - p.incoming.length)) :: rest } :
                    Pipe).isReadable = true := by
                cases hincoming : p.incoming with
                | nil =>
                    obtain ⟨n, hn⟩ := Nat.exists_eq_succ_of_ne_zero (Nat.ne_of_gt hcapacity)
                    obtain ⟨b, tail, rfl⟩ := List.exists_cons_of_ne_nil hbytes
                    simp [isReadable, hn]
                | cons b tail => simp [isReadable]
              exact ⟨_, _, idle_of_readable hready, .ready hready, Iff.rfl, rfl⟩
      | sleep millis =>
          cases millis with
          | zero => exact ih p hroom
          | succ n =>
              rw [waitFrom]
              split
              · rename_i hready
                exact ⟨_, _, rfl, .ready hready, Iff.rfl, rfl⟩
              · exact ih _ hroom
      | finish =>
          obtain ⟨wake, p', hwait, hsettled, hends, hcapacity⟩ :=
            ih { p with ended := true } fun h => absurd h (by simp)
          exact ⟨wake, p', hwait, hsettled, by simp [hends, finishes], hcapacity⟩
      | close =>
          have hready : ({ p with ended := true, gone := true, plan := [] } : Pipe).isReadable =
            true := readable_of_ended rfl
          exact ⟨_, _, idle_of_readable hready, .ready hready, by simp [Ending, finishes], rfl⟩

theorem wait_settles (hroom : p.ended = false → announced p.plan ≠ [] → 0 < p.capacity) :
    ∃ wake p', p.wait isReadable none = (wake, p') ∧ Settled wake p' ∧
      (p'.Ending ↔ p.Ending) ∧ p'.capacity = p.capacity := by
  have hcollect : p.collect.ended = p.ended ∧ p.collect.capacity = p.capacity := by
    unfold collect
    split
    · exact ⟨rfl, rfl⟩
    · exact ⟨rfl, rfl⟩
  have hsettles := waitFrom_settles p.plan p.collect (by rwa [hcollect.1, hcollect.2])
  rwa [hcollect.1, hcollect.2] at hsettles

end Pipe

namespace Connection

/-- The connection delivers the byte string `b`. The last condition is that of a peer that can
send: a pipe without any room never takes a byte from it. -/
structure Delivers (c : Connection) (b : Bytes) : Prop where
  connected : c.connected = true
  unlimited : c.readTimeout = none
  upcoming : c.upcoming = b
  room : b ≠ [] → 0 < c.pipe.capacity

/-- What reading leaves as it is, what comes behind the bytes included. -/
structure Continues (c c' : Connection) : Prop where
  endpoint : c'.endpoint = c.endpoint
  maxLine : c'.maxLine = c.maxLine
  ending : c'.pipe.Ending ↔ c.pipe.Ending

variable {c c' : Connection} {b rest : Bytes}

theorem Continues.refl (c : Connection) : c.Continues c := ⟨rfl, rfl, Iff.rfl⟩

theorem Continues.trans {c'' : Connection} (h : c.Continues c') (h' : c'.Continues c'') :
    c.Continues c'' :=
  ⟨h'.endpoint.trans h.endpoint, h'.maxLine.trans h.maxLine, h'.ending.trans h.ending⟩

theorem Delivers.deadline_eq (h : c.Delivers b) : c.deadline c.readTimeout = none := by
  rw [deadline, h.unlimited]
  rfl

/-! ## Byte by byte -/

/-- The pipe of a connection that delivers a string, when its client is done waiting. -/
theorem Delivers.settles (h : c.Delivers b) (hbuffer : c.buffer = []) :
    ∃ wake p, (if c.pipe.isReadable then (Wake.ready, c.pipe)
      else c.pipe.wait Pipe.isReadable none) = (wake, p) ∧ Pipe.Settled wake p ∧
        ({ c with pipe := p } : Connection).Delivers b ∧ c.Continues { c with pipe := p } := by
  have hpipe : c.pipe.upcoming = b := by
    rw [← h.upcoming, Connection.upcoming, hbuffer, List.nil_append]
  split
  · rename_i hready
    exact ⟨.ready, c.pipe, rfl, .ready hready, h, .refl c⟩
  · have hroom : c.pipe.ended = false → Pipe.announced c.pipe.plan ≠ [] → 0 < c.pipe.capacity := by
      intro hended hplan
      apply h.room
      rw [← hpipe, Pipe.upcoming, hended]
      exact List.append_ne_nil_of_right_ne_nil _ hplan
    obtain ⟨wake, p, hwait, hsettled, hends, hcapacity⟩ := Pipe.wait_settles hroom
    have hup : p.upcoming = b := by
      have := Pipe.wait_upcoming Pipe.isReadable none c.pipe
      rwa [hwait, hpipe] at this
    refine ⟨wake, p, hwait, hsettled, ⟨h.connected, h.unlimited, ?_, ?_⟩, rfl, rfl, hends⟩
    · rw [Connection.upcoming, hbuffer, List.nil_append]
      exact hup
    · intro hb
      rw [hcapacity]
      exact h.room hb

/-- Filling the empty buffer of a connection leaves it empty only at the end. -/
theorem Delivers.refill (h : c.Delivers b) (hbuffer : c.buffer = [])
    (hready : c.pipe.isReadable = true) (needed : Nat) :
    (c.refill needed).Delivers b ∧
      ((c.refill needed).buffer = [] → b = [] ∧ c.pipe.ended = true) := by
  have hup : (c.refill needed).upcoming = b := (refill_upcoming needed hbuffer).trans h.upcoming
  refine ⟨⟨h.connected, h.unlimited, hup, h.room⟩, fun hempty => ?_⟩
  have hsize : max bufferSize needed ≠ 0 := by
    rw [bufferSize]
    omega
  have hincoming : c.pipe.incoming = [] :=
    (List.take_eq_nil_iff.mp hempty).resolve_left hsize
  have hended : c.pipe.ended = true := by simpa [Pipe.isReadable, hincoming] using hready
  refine ⟨?_, hended⟩
  rw [← h.upcoming, Connection.upcoming, Pipe.upcoming, hbuffer, hincoming, if_pos hended]
  rfl

theorem Delivers.tail {x : UInt8} {tail : Bytes} (h : c.Delivers b)
    (hbuffer : c.buffer = x :: tail) :
    ∃ rest, b = x :: rest ∧ ({ c with buffer := tail } : Connection).Delivers rest := by
  have hb : b = x :: (tail ++ c.pipe.upcoming) := by
    rw [← h.upcoming, Connection.upcoming, hbuffer]
    rfl
  exact ⟨_, hb, h.connected, h.unlimited, rfl, fun _ => h.room (by rw [hb]; simp)⟩

/-- What is found at the front of a byte string, and what is behind it. -/
inductive Fronts (ends : Prop) : Bytes → Arrival → Bytes → Prop
  | byte (x : UInt8) (rest : Bytes) : Fronts ends (x :: rest) (.byte x) rest
  | ended (h : ends) : Fronts ends [] .ended []
  | never (h : ¬ends) : Fronts ends [] .never []

/-- The next byte is the first of the string. Behind the last one is the end, or nothing. -/
theorem nextByte_of_delivers (h : c.Delivers b) (needed : Nat) :
    ∃ arrival rest c', c.nextByte none needed = (arrival, c') ∧
      Fronts c.pipe.Ending b arrival rest ∧ c'.Delivers rest ∧ c.Continues c' := by
  unfold nextByte
  split
  · rename_i x tail hbuffer
    obtain ⟨rest, rfl, hrest⟩ := h.tail hbuffer
    exact ⟨.byte x, rest, _, rfl, .byte x rest, hrest, rfl, rfl, Iff.rfl⟩
  · rename_i hbuffer
    obtain ⟨wake, p, hwait, hsettled, hp, hcontinues⟩ := h.settles hbuffer
    rw [hwait]
    cases hsettled with
    | never hup hends =>
        obtain rfl : b = [] := by rw [← hp.upcoming, Connection.upcoming, hbuffer, hup]; rfl
        exact ⟨.never, [], _, rfl, .never fun h => hends (hcontinues.ending.mpr h), hp, hcontinues⟩
    | ready hready =>
        obtain ⟨hfilled, hempty⟩ := hp.refill hbuffer hready needed
        dsimp only
        split
        · rename_i x tail hbuffer'
          obtain ⟨rest, rfl, hrest⟩ := hfilled.tail hbuffer'
          exact ⟨.byte x, rest, _, rfl, .byte x rest, hrest, rfl, rfl, hcontinues.ending⟩
        · rename_i hbuffer'
          obtain ⟨rfl, hended⟩ := hempty hbuffer'
          exact ⟨.ended, [], _, rfl, .ended (hcontinues.ending.mp (.inl hended)), hfilled, rfl, rfl,
            hcontinues.ending⟩

end Connection

end RespClient
