import RespClient.Proofs.Wire.Transport
import RespClient.Pipe.Connection

/-!
# Connections as transports

What can still be read from a connection is what its buffer holds, then what is in
the pipe, then what the peer is still to send. Waiting, refilling the buffer and
writing move bytes along this line and lose none, however the peer cuts what it
sends and however little the pipe holds. A read takes its bytes off the front. What
was written is what the peer has taken and then what is still in the pipe; waiting
moves bytes from the one to the other, and only a write adds some.
-/

namespace RespClient

namespace Pipe

/-- The bytes that a plan still sends. -/
def announced : List PeerAction → Bytes
  | [] => []
  | .send bytes :: rest => bytes ++ announced rest
  | .sleep _ :: rest => announced rest
  | .finish :: _ => []
  | .close :: _ => []

/-- What the client can still read. -/
def upcoming (p : Pipe) : Bytes :=
  p.incoming ++ if p.ended then [] else announced p.plan

theorem planned_eq (plan : List PeerAction) : planned plan = (announced plan).length := by
  induction plan with
  | nil => rfl
  | cons action rest ih =>
      cases action with
      | send bytes => rw [planned, announced, List.length_append, ih]
      | sleep millis => exact ih
      | finish => rfl
      | close => rfl

theorem exists_announced_append (plan more : List PeerAction) :
    ∃ bytes, announced (plan ++ more) = announced plan ++ bytes := by
  induction plan with
  | nil => exact ⟨announced more, rfl⟩
  | cons action rest ih =>
      obtain ⟨bytes, ih⟩ := ih
      cases action with
      | send sent => exact ⟨bytes, by simp [announced, ih]⟩
      | sleep millis => exact ⟨bytes, ih⟩
      | finish => exact ⟨[], rfl⟩
      | close => exact ⟨[], rfl⟩

theorem pending_eq (p : Pipe) : p.pending = p.upcoming.length := by
  rw [pending, upcoming, List.length_append, planned_eq]
  split <;> rfl

/-! ## Waiting loses nothing -/

theorem idle_upcoming (ready : Pipe → Bool) (deadline : Option Nat) (p : Pipe) :
    (idle ready deadline p).2.upcoming = p.upcoming := by
  unfold idle
  split
  · rfl
  · split <;> rfl

theorem waitFrom_upcoming (ready : Pipe → Bool) (deadline : Option Nat)
    (plan : List PeerAction) (p : Pipe) :
    (waitFrom ready deadline plan p).2.upcoming =
      p.incoming ++ if p.ended then [] else announced plan := by
  induction plan generalizing p with
  | nil => exact idle_upcoming ready deadline _
  | cons action rest ih =>
      cases action with
      | send bytes =>
          rw [waitFrom]
          split
          · rename_i hended
            rw [ih, if_pos hended]
          · rename_i hended
            dsimp only
            split
            · rw [ih]
              simp [hended, announced]
            -- what does not fit stays in the plan
            · rw [idle_upcoming]
              simp only [upcoming, if_neg hended, announced, List.append_assoc]
              rw [← List.append_assoc (List.take _ _), List.take_append_drop]
      | sleep millis =>
          cases millis with
          | zero => exact ih p
          | succ n =>
              rw [waitFrom]
              split
              · rfl
              · split
                · rfl
                · exact ih _
      | finish =>
          rw [waitFrom, ih]
          simp [announced]
      | close =>
          rw [waitFrom, idle_upcoming]
          simp [upcoming, announced]

theorem wait_upcoming (ready : Pipe → Bool) (deadline : Option Nat) (p : Pipe) :
    (p.wait ready deadline).2.upcoming = p.upcoming := by
  unfold wait
  split
  · rfl
  · rw [waitFrom_upcoming, upcoming, collect]
    split <;> rfl

theorem writeFrom_upcoming (deadline : Option Nat) (rounds : Nat) (bytes : Bytes) (p : Pipe) :
    (writeFrom deadline rounds bytes p).2.upcoming = p.upcoming := by
  induction rounds generalizing bytes p with
  | zero => cases bytes <;> rfl
  | succ rounds ih =>
      cases bytes with
      | nil => rfl
      | cons b rest =>
          have hwait : (if p.isWritable then (Wake.ready, p)
              else p.wait isWritable deadline).2.upcoming = p.upcoming := by
            split
            · rfl
            · exact wait_upcoming isWritable deadline p
          simp only [writeFrom]
          split <;> rename_i heq <;> rw [heq] at hwait
          · split
            · exact hwait
            · rw [ih]
              exact hwait
          · exact hwait
          · exact hwait

/-! ## Waiting writes nothing -/

/-- All that the client ever wrote. -/
def written (p : Pipe) : Bytes :=
  p.collected ++ p.outgoing

theorem idle_written (ready : Pipe → Bool) (deadline : Option Nat) (p : Pipe) :
    (idle ready deadline p).2.written = p.written := by
  unfold idle
  split
  · rfl
  · split <;> rfl

theorem waitFrom_written (ready : Pipe → Bool) (deadline : Option Nat) (plan : List PeerAction)
    (p : Pipe) : (waitFrom ready deadline plan p).2.written = p.written := by
  induction plan generalizing p with
  | nil => exact idle_written ready deadline _
  | cons action rest ih =>
      cases action with
      | send bytes =>
          rw [waitFrom]
          split
          · exact ih p
          · dsimp only
            split
            · exact ih _
            · exact idle_written ready deadline _
      | sleep millis =>
          cases millis with
          | zero => exact ih p
          | succ n =>
              rw [waitFrom]
              split
              · rfl
              · split
                · rfl
                · exact ih _
      | finish => exact ih _
      | close => exact idle_written ready deadline _

theorem wait_written (ready : Pipe → Bool) (deadline : Option Nat) (p : Pipe) :
    (p.wait ready deadline).2.written = p.written := by
  unfold wait
  split
  · rfl
  · rw [waitFrom_written, collect]
    split
    · simp [written]
    · rfl

/-- A write that ended so added its bytes, or the first of them if it was cut short. -/
def Adds (bytes : Bytes) (ending : Writing) (p p' : Pipe) : Prop :=
  ∃ part rest, bytes = part ++ rest ∧ p'.written = p.written ++ part ∧ (ending = .done ↔ rest = [])

theorem adds_done {p p' : Pipe} (hwritten : p'.written = p.written) : Adds [] .done p p' :=
  ⟨[], [], rfl, by rw [hwritten, List.append_nil], by simp⟩

theorem adds_nothing {bytes : Bytes} {ending : Writing} {p p' : Pipe} (hbytes : bytes ≠ [])
    (hending : ending ≠ .done) (hwritten : p'.written = p.written) : Adds bytes ending p p' :=
  ⟨[], bytes, rfl, by rw [hwritten, List.append_nil], by simp [hbytes, hending]⟩

theorem writeFrom_adds {deadline : Option Nat} {rounds : Nat} {bytes : Bytes} {p p' : Pipe}
    {ending : Writing} (h : writeFrom deadline rounds bytes p = (ending, p')) :
    Adds bytes ending p p' := by
  induction rounds generalizing bytes p with
  | zero =>
      cases bytes with
      | nil =>
          cases h
          exact adds_done rfl
      | cons b more =>
          cases h
          exact adds_nothing (List.cons_ne_nil b more) (by rintro ⟨⟩) rfl
  | succ rounds ih =>
      cases bytes with
      | nil =>
          cases h
          exact adds_done rfl
      | cons b more =>
          rcases hwait : (if p.isWritable then (Wake.ready, p) else p.wait isWritable deadline)
            with ⟨wake, p₁⟩
          have hwritten : p₁.written = p.written := by
            split at hwait
            · cases hwait
              rfl
            · rw [← wait_written isWritable deadline p, hwait]
          simp only [writeFrom, hwait] at h
          cases wake with
          | expired | never =>
              cases h
              exact adds_nothing (List.cons_ne_nil b more) (by rintro ⟨⟩) hwritten
          | ready =>
              dsimp only at h
              split at h
              · cases h
                exact adds_nothing (List.cons_ne_nil b more) (by rintro ⟨⟩) hwritten
              · obtain ⟨part, rest, hbytes, hpart, hdone⟩ := ih h
                -- the bytes of this round come before those of the later ones
                refine ⟨(b :: more).take (p₁.capacity - p₁.outgoing.length) ++ part, rest, ?_, ?_,
                  hdone⟩
                · rw [List.append_assoc, ← hbytes, List.take_append_drop]
                · rw [hpart, ← hwritten]
                  simp [written]

end Pipe

namespace Connection

/-- What can still be read. -/
def upcoming (c : Connection) : Bytes :=
  c.buffer ++ c.pipe.upcoming

/-! ## Taking bytes -/

theorem refill_upcoming {c : Connection} (needed : Nat) (hempty : c.buffer = []) :
    (c.refill needed).upcoming = c.upcoming := by
  simp only [refill, upcoming, Pipe.upcoming, hempty, List.nil_append]
  rw [← List.append_assoc, List.take_append_drop]
  rfl

/-- The next byte is the first of those that can still be read. -/
theorem nextByte_eq_byte {deadline : Option Nat} {needed : Nat} {c c' : Connection} {b : UInt8}
    (h : c.nextByte deadline needed = (.byte b, c')) :
    c.upcoming = b :: c'.upcoming ∧ c'.connected = c.connected := by
  unfold nextByte at h
  split at h
  · rename_i head rest hbuffer
    cases h
    exact ⟨by simp [upcoming, hbuffer], rfl⟩
  · rename_i hbuffer
    have hpipe : (if c.pipe.isReadable then (Wake.ready, c.pipe)
        else c.pipe.wait Pipe.isReadable deadline).2.upcoming = c.pipe.upcoming := by
      split
      · rfl
      · exact Pipe.wait_upcoming Pipe.isReadable deadline c.pipe
    dsimp only at h
    split at h
    · cases h
    · cases h
    · split at h
      · rename_i head rest hfilled
        cases h
        have hrefill := refill_upcoming needed
          (c := { c with pipe := (if c.pipe.isReadable then (Wake.ready, c.pipe)
            else c.pipe.wait Pipe.isReadable deadline).2 }) hbuffer
        refine ⟨?_, rfl⟩
        rw [upcoming, hfilled] at hrefill
        simp only [upcoming, hbuffer, List.nil_append, hpipe] at hrefill ⊢
        exact hrefill.symm
      · cases h

/-- A line that was found is what came before the first line feed. -/
theorem takeLine_eq_found {deadline : Option Nat} {limit : Nat} {taken taken' : Bytes}
    {c c' : Connection} (h : takeLine deadline limit taken c = (.found, taken', c')) :
    ∃ line, Bytes.lf ∉ line ∧ taken' = Bytes.lf :: (line.reverse ++ taken) ∧
      c.upcoming = line ++ Bytes.lf :: c'.upcoming ∧ c'.connected = c.connected := by
  induction limit generalizing taken c with
  | zero => cases h
  | succ limit ih =>
      rw [takeLine] at h
      split at h
      · rename_i b c₁ hnext
        obtain ⟨hup, hconn⟩ := nextByte_eq_byte hnext
        split at h
        · rename_i hb
          cases h
          exact ⟨[], by simp, by simp [hb], by simp [hup, hb], hconn⟩
        · rename_i hb
          obtain ⟨line, hlf, htaken, hline, hconn'⟩ := ih h
          refine ⟨b :: line, ?_, by simp [htaken], by simp [hup, hline], hconn'.trans hconn⟩
          rw [List.mem_cons, not_or]
          exact ⟨fun he => hb he.symm, hlf⟩
      · cases h
      · cases h
      · cases h

theorem takeBytes_eq_found {deadline : Option Nat} {n : Nat} {taken taken' : Bytes}
    {c c' : Connection} (h : takeBytes deadline n taken c = (.found, taken', c')) :
    ∃ data, data.length = n ∧ taken' = data.reverse ++ taken ∧
      c.upcoming = data ++ c'.upcoming ∧ c'.connected = c.connected := by
  induction n generalizing taken c with
  | zero =>
      cases h
      exact ⟨[], rfl, rfl, rfl, rfl⟩
  | succ n ih =>
      rw [takeBytes] at h
      split at h
      · rename_i b c₁ hnext
        obtain ⟨hup, hconn⟩ := nextByte_eq_byte hnext
        obtain ⟨data, hlen, htaken, hdata, hconn'⟩ := ih h
        exact ⟨b :: data, by simp [hlen], by simp [htaken], by simp [hup, hdata],
          hconn'.trans hconn⟩
      · cases h
      · cases h
      · cases h

/-! ## The laws -/

/-- A line that was read was found with its end. -/
theorem readLine_found {c c' : Connection} {payload : Bytes}
    (h : readLine c = (.ok payload, c')) :
    c.connected = true ∧ takeLine (c.deadline c.readTimeout) c.lineLimit [] c =
      (.found, Bytes.lf :: Bytes.cr :: payload.reverse, c') := by
  unfold readLine at h
  split at h
  · cases h
  · rename_i hc
    split at h
    · rename_i taken c₁ htake
      obtain ⟨line, -, htaken, -⟩ := takeLine_eq_found htake
      split at h
      · cases h
        obtain ⟨rfl, -⟩ := List.cons.inj htaken
        rw [List.reverse_reverse]
        exact ⟨by simpa using hc, htake⟩
      · cases h
    · cases h
    · cases h
    · cases h
    · cases h

theorem readLine_eq_ok {c c' : Connection} {payload : Bytes}
    (h : readLine c = (.ok payload, c')) :
    c'.connected = true ∧ Bytes.lf ∉ payload ∧
      c.upcoming = payload ++ (Bytes.crlf ++ c'.upcoming) := by
  obtain ⟨hc, htake⟩ := readLine_found h
  obtain ⟨line, hlf, htaken, hline, hconn⟩ := takeLine_eq_found htake
  have hfront : line = payload ++ [Bytes.cr] := by
    have hrev : line.reverse = Bytes.cr :: payload.reverse := by
      simpa using (List.cons.inj htaken).2.symm
    rw [← List.reverse_reverse line, hrev, List.reverse_cons, List.reverse_reverse]
  refine ⟨hconn.trans hc, fun hmem => hlf ?_, ?_⟩
  · rw [hfront]
    exact List.mem_append_left _ hmem
  · rw [hline, hfront]
    simp [Bytes.crlf]

theorem readBytes_eq_ok {c c' : Connection} {n : Nat} {data : Bytes}
    (h : readBytes n c = (.ok data, c')) :
    c'.connected = true ∧ data.length = n ∧ c.upcoming = data ++ c'.upcoming := by
  unfold readBytes at h
  split at h
  · cases h
  · rename_i hc
    split at h
    · cases h
    · split at h
      · rename_i taken c₁ htake
        cases h
        obtain ⟨data, hlen, htaken, hdata, hconn⟩ := takeBytes_eq_found htake
        refine ⟨?_, by simp [htaken, hlen], by simp [htaken, hdata]⟩
        rw [hconn]
        simpa using hc
      · cases h
      · cases h
      · cases h

theorem write_eq_ok {c c' : Connection} {bytes : Bytes} (h : write bytes c = (.ok (), c')) :
    c'.connected = true ∧ c'.upcoming = c.upcoming := by
  unfold write at h
  split at h
  · cases h
  · rename_i hc
    have hpipe : (c.pipe.write (c.deadline c.writeTimeout) bytes).2.upcoming = c.pipe.upcoming :=
      Pipe.writeFrom_upcoming _ _ bytes c.pipe
    dsimp only at h
    split at h
    · cases h
      exact ⟨by simpa using hc, by simp [upcoming, hpipe]⟩
    · cases h
    · cases h
    · cases h

theorem write_eq_error {c c' : Connection} {bytes : Bytes} {e : Failure}
    (h : write bytes c = (.error e, c')) : c'.connected = false := by
  unfold write at h
  split at h
  · rename_i hc
    cases h
    simpa using hc
  · dsimp only at h
    split at h
    · cases h
    · cases h
      rfl
    · cases h
      rfl
    · cases h

/-! ## What is written -/

/-- Looking for the next byte writes nothing. -/
theorem nextByte_written (deadline : Option Nat) (needed : Nat) (c : Connection) :
    (c.nextByte deadline needed).2.pipe.written = c.pipe.written := by
  unfold nextByte
  split
  · rfl
  · rcases hwait : (if c.pipe.isReadable then (Wake.ready, c.pipe)
        else c.pipe.wait Pipe.isReadable deadline) with ⟨wake, pipe⟩
    have hwritten : pipe.written = c.pipe.written := by
      split at hwait
      · cases hwait
        rfl
      · rw [← Pipe.wait_written Pipe.isReadable deadline c.pipe, hwait]
    cases wake with
    | expired | never => exact hwritten
    | ready =>
        dsimp only
        split
        · exact hwritten
        · exact hwritten

theorem takeLine_written (deadline : Option Nat) (limit : Nat) (taken : Bytes) (c : Connection) :
    (takeLine deadline limit taken c).2.2.pipe.written = c.pipe.written := by
  induction limit generalizing taken c with
  | zero => rfl
  | succ limit ih =>
      have hnext := nextByte_written deadline 1 c
      rw [takeLine]
      split <;> rename_i heq <;> rw [heq] at hnext
      · split
        · exact hnext
        · rw [ih]
          exact hnext
      · exact hnext
      · exact hnext
      · exact hnext

theorem takeBytes_written (deadline : Option Nat) (n : Nat) (taken : Bytes) (c : Connection) :
    (takeBytes deadline n taken c).2.2.pipe.written = c.pipe.written := by
  induction n generalizing taken c with
  | zero => rfl
  | succ n ih =>
      have hnext := nextByte_written deadline (n + 1) c
      rw [takeBytes]
      split <;> rename_i heq <;> rw [heq] at hnext
      · rw [ih]
        exact hnext
      · exact hnext
      · exact hnext
      · exact hnext

theorem readLine_written (c : Connection) : (readLine c).2.pipe.written = c.pipe.written := by
  have htake := takeLine_written (c.deadline c.readTimeout) c.lineLimit [] c
  unfold readLine
  split
  · rfl
  · split <;> rename_i heq <;> rw [heq] at htake
    · split
      · exact htake
      · exact htake
    · exact htake
    · exact htake
    · exact htake
    · exact htake

theorem readBytes_written (n : Nat) (c : Connection) :
    (readBytes n c).2.pipe.written = c.pipe.written := by
  have htake := takeBytes_written (c.deadline c.readTimeout) n [] c
  unfold readBytes
  split
  · rfl
  · split
    · rfl
    · split <;> rename_i heq <;> rw [heq] at htake
      · exact htake
      · exact htake
      · exact htake
      · exact htake

theorem write_written {c c' : Connection} {bytes : Bytes} {r : Outcome Unit}
    (h : write bytes c = (r, c')) (hbytes : bytes ≠ []) :
    ∃ part rest, bytes = part ++ rest ∧ c'.pipe.written = c.pipe.written ++ part ∧
      (r = .ok () ↔ rest = []) := by
  unfold write at h
  split at h
  · cases h
    exact ⟨[], bytes, rfl, (List.append_nil _).symm, by simp [hbytes]⟩
  · rcases hwrite : c.pipe.write (c.deadline c.writeTimeout) bytes with ⟨ending, pipe⟩
    obtain ⟨part, rest, hsplit, hpart, hdone⟩ := Pipe.writeFrom_adds hwrite
    simp only [hwrite] at h
    refine ⟨part, rest, hsplit, ?_, ?_⟩
    · cases ending <;> cases h <;> exact hpart
    · rw [← hdone]
      cases ending <;> cases h <;> simp

instance : Transport.Lawful Connection where
  upcoming := upcoming
  output c := c.pipe.written
  pending_eq c := by
    show c.buffer.length + c.pipe.pending = c.upcoming.length
    rw [upcoming, List.length_append, Pipe.pending_eq]
  isConnected_disconnect _ := rfl
  readLine_of_gone {c} h := by
    have h : c.connected = false := h
    exact ⟨c.closed, by simp [Transport.readLine, readLine, h]⟩
  write_of_gone {c} bytes h := by
    have h : c.connected = false := h
    exact ⟨c.closed, by simp [Transport.write, write, h]⟩
  readLine_ok := readLine_eq_ok
  readBytes_ok := readBytes_eq_ok
  write_ok := write_eq_ok
  write_error := write_eq_error
  output_write := write_written
  output_readLine := readLine_written
  output_readBytes := readBytes_written
  output_disconnect _ := rfl

end Connection

end RespClient
