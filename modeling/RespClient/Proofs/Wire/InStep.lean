import RespClient.Proofs.Wire.Gone
import RespClient.Proofs.Wire.Streaming

/-!
# A link is never out of step

As long as a link is connected, what was consumed is one complete reply for each one
that was served, and the part of a reply that an open stream has taken. This part is
described by what it owes: any so many elements that follow make it complete. Every
event of a session keeps the account, and an end is for good.
-/

namespace RespClient

open Transport

variable {τ : Type} [Transport τ] [Lawful τ]

namespace Grammar

/-- A complete reply, as the frame that it was read as if it was read whole. -/
def Complete (served : Decoder × Option Frame) (w : Bytes) : Prop :=
  ∃ f, Derives served.1.protocol served.1.maxFrameSize f w ∧
    (served.2 = none ∨ served.2 = some f)

/-- The part of a reply that any `n` more elements make complete. -/
def Owes (d : Decoder) (n : Nat) (part : Bytes) : Prop :=
  ∀ items w, items.length = n → Each (Derives d.protocol d.maxFrameSize) items w →
    ∃ f, Derives d.protocol d.maxFrameSize f (part ++ w)

variable {d : Decoder}

/-- Elements that were read are owed no more. -/
theorem Owes.after {n : Nat} {part v : Bytes} {items : List Frame}
    (h : Owes d (items.length + n) part) (hread : Each (Derives d.protocol d.maxFrameSize) items v) :
    Owes d n (part ++ v) := by
  intro rest w hlen hrest
  rw [List.append_assoc]
  exact h (items ++ rest) (v ++ w) (by rw [List.length_append, hlen]) (each_append hread hrest)

theorem Owes.complete {part : Bytes} (h : Owes d 0 part) : Complete (d, none) part := by
  obtain ⟨f, hderives⟩ := h [] [] rfl .nil
  rw [List.append_nil] at hderives
  exact ⟨f, hderives, .inl rfl⟩

end Grammar

namespace Decoder

open RespClient.Action Grammar Encoding

/-- The header of an aggregate owes its elements. -/
theorem owes_header {d : Decoder} {tag : Tag} {kind : AggregateKind} {width n : Nat}
    (hknows : d.protocol.Knows tag) (hkind : lazyKind? tag = some (kind, width))
    (hlimit : n ≤ d.maxFrameSize / 16) : Owes d (n * width) (header tag n) := by
  have hsequence : ∀ {tag : Tag} {build : List Frame → Frame}, d.protocol.Knows tag →
      Sequence tag build → Owes d (n * 1) (header tag n) := by
    intro tag build hknows hseq items w hlen hitems
    obtain rfl : items.length = n := by omega
    exact ⟨build items, .sequence hknows hseq rfl hlimit hitems⟩
  cases tag <;> cases hkind
  · exact hsequence hknows .array
  · intro items w hlen hitems
    obtain ⟨pairs, rfl, rfl⟩ := exists_alternating n hlen
    exact ⟨.map pairs, .map hknows hlimit hitems⟩
  · exact hsequence hknows .set

/-- A stream that was opened has taken a header, and the reply still owes the elements. -/
theorem openStream_owes {d : Decoder} {t t' : τ} {kind : AggregateKind} {n : Nat}
    (h : d.openStream t = (.ok (.stream kind n), t')) :
    ∃ part, Owes d n part ∧ Takes t part t' := by
  have hopen := orDisconnect_eq_ok.mp h
  rw [openElement_eq] at hopen
  obtain ⟨⟨tag, payload⟩, t₁, hheader, hbody⟩ := bind_eq_ok.mp hopen
  obtain ⟨hknows, -, htakes⟩ := readHeader_takes hheader
  cases hkind : lazyKind? tag with
  | none =>
      simp only [openBody, hkind] at hbody
      obtain ⟨f, t₂, -, hgive⟩ := bind_eq_ok.mp hbody
      cases hgive
  | some found =>
      obtain ⟨kind', width⟩ := found
      simp only [openBody, hkind] at hbody
      obtain ⟨count, t₂, hcount, hgive⟩ := bind_eq_ok.mp hbody
      obtain ⟨hread, rfl⟩ := accept_eq_ok.mp hcount
      cases count with
      | none => cases hgive
      | some k =>
          cases hgive
          obtain ⟨rfl, hlimit, -⟩ := readCount_eq_some.mp hread
          exact ⟨header tag k, owes_header hknows hkind hlimit, htakes⟩

/-- A reply that was not opened as a stream was read whole. -/
theorem openStream_whole {d : Decoder} {t t' : τ} {f : Frame}
    (h : d.openStream t = (.ok (.whole f), t')) : d.decode t = (.ok f, t') := by
  have hagrees := d.openStream_agrees t
  rw [h] at hagrees
  exact hagrees.1

end Decoder

namespace FrameStream

open Grammar

variable {s s' : FrameStream τ}

theorem next_takes {f : Frame} (h : s.next = (.ok (some f), s')) :
    ∃ w, Derives s.decoder.protocol s.decoder.maxFrameSize f w ∧ Takes s.source w s'.source :=
  s.decoder.readElement_sound (next_eq_some h).1

/-- Skipping to the end takes all that is left. -/
theorem drain_takes {k : Nat} (hconn : isConnected s.source = true)
    (h : s.drain = (.ok k, s')) :
    ∃ items w, items.length = s.remaining ∧
      Each (Derives s.decoder.protocol s.decoder.maxFrameSize) items w ∧
        Takes s.source w s'.source ∧ s'.remaining = 0 ∧ s'.decoder = s.decoder := by
  obtain ⟨items, hruns, hlen, hend, hdecoder⟩ := skip_eq_ok rfl h
  obtain ⟨w, hitems, htakes⟩ := Decoder.runs_takes s.decoder.readElement_sound hconn hruns
  exact ⟨items, w, hlen, hitems, htakes, hend, hdecoder⟩

end FrameStream

namespace Session

open Grammar RespClient.Action

variable {s s' : Session τ} {e : Event} {served : List (Decoder × Option Frame)} {total : Bytes}

/-- While the link is connected, the bytes that came in total are one complete reply
for each one served, in order, and behind them what can still be read. An open stream
has taken a part of the last reply. -/
def InStep (served : List (Decoder × Option Frame)) (total : Bytes) : Session τ → Prop
  | .idle t => isConnected t = true →
      ∃ w, Each Complete served w ∧ total = w ++ Lawful.upcoming t
  | .streaming s => isConnected s.source = true →
      ∃ before w part, served = before ++ [(s.decoder, none)] ∧ Each Complete before w ∧
        Owes s.decoder s.remaining part ∧ total = w ++ (part ++ Lawful.upcoming s.source)

theorem InStep.of_gone (h : s.Gone) : s.InStep served total := by
  have hgone : ¬isConnected s.link = true := by
    rw [h]
    exact Bool.false_ne_true
  cases s with
  | idle t => exact fun hconn => absurd hconn hgone
  | streaming s => exact fun hconn => absurd hconn hgone

/-- A reply that is read whole is one more complete reply. -/
theorem InStep.read {d : Decoder} {f : Frame} {t t' : τ} (h : InStep served total (.idle t))
    (hconn : isConnected t = true) (hdecode : d.decode t = (.ok f, t')) :
    InStep (served ++ [(d, some f)]) total (.idle t') := by
  intro _
  obtain ⟨w, hserved, rfl⟩ := h hconn
  obtain ⟨v, hderives, htakes⟩ := d.decode_sound hdecode
  refine ⟨w ++ v, each_append hserved (each_singleton ⟨f, hderives, .inr rfl⟩), ?_⟩
  rw [htakes.2, List.append_assoc]

/-- A stream without elements left has taken its reply whole. -/
theorem InStep.ended {s : FrameStream τ} (h : InStep served total (.streaming s))
    (hend : s.remaining = 0) : InStep served total (.idle s.drop) := by
  rw [FrameStream.drop, if_neg (by omega)]
  intro hconn
  obtain ⟨before, w, part, rfl, hbefore, howes, rfl⟩ := h hconn
  rw [hend] at howes
  refine ⟨w ++ part, each_append hbefore (each_singleton howes.complete), ?_⟩
  rw [List.append_assoc]

/-- Elements that a stream reads are owed no more. -/
theorem InStep.advance {s s' : FrameStream τ} {items : List Frame} {v : Bytes}
    (h : InStep served total (.streaming s)) (hconn : isConnected s.source = true)
    (hitems : Each (Derives s.decoder.protocol s.decoder.maxFrameSize) items v)
    (htakes : Takes s.source v s'.source) (hleft : s.remaining = items.length + s'.remaining)
    (hdecoder : s'.decoder = s.decoder) : InStep served total (.streaming s') := by
  intro _
  obtain ⟨before, w, part, rfl, hbefore, howes, rfl⟩ := h hconn
  rw [hleft] at howes
  refine ⟨before, w, part ++ v, by rw [hdecoder], hbefore, ?_, ?_⟩
  · rw [hdecoder]
    exact howes.after hitems
  · rw [htakes.2, List.append_assoc]

theorem InStep.arrive {t' : τ} {bytes : Bytes} (h : s.InStep served total)
    (hconn : isConnected s.link = true) (harrives : Arrives s.link bytes t') :
    InStep served (total ++ bytes) (s.relink t') := by
  cases s with
  | idle t =>
      intro _
      obtain ⟨w, hserved, rfl⟩ := h hconn
      refine ⟨w, hserved, ?_⟩
      rw [harrives.2 hconn, List.append_assoc]
      rfl
  | streaming s =>
      intro _
      obtain ⟨before, w, part, rfl, hbefore, howes, rfl⟩ := h hconn
      refine ⟨before, w, part, rfl, hbefore, howes, ?_⟩
      show _ = w ++ (part ++ Lawful.upcoming t')
      rw [harrives.2 hconn, List.append_assoc, List.append_assoc]
      rfl

/-- Every answer keeps a link in step. -/
theorem Served.inStep {q : Request} {a : Answer} (h : Served s q a s')
    (hconn : isConnected s.link = true) (hs : s.InStep served total) :
    s'.InStep (served ++ (Event.answered q a).reply) total := by
  cases h with
  | decode h => exact hs.read hconn h
  | @exchange d c t t' f h =>
      obtain ⟨u, t₁, hwrite, hdecode⟩ := bind_eq_ok.mp h
      -- a write moves nothing that can be read
      obtain ⟨hconn', hup⟩ := Lawful.write_ok hwrite
      have hs' : InStep served total (.idle t₁) := by
        intro _
        rw [hup]
        exact hs hconn
      exact hs'.read hconn' hdecode
  | whole h => exact hs.read hconn (Decoder.openStream_whole h)
  | opened h =>
      intro _
      obtain ⟨w, hserved, rfl⟩ := hs hconn
      obtain ⟨part, howes, htakes⟩ := Decoder.openStream_owes h
      refine ⟨served, w, part, rfl, hserved, howes, ?_⟩
      rw [htakes.2]
  | @element s s' f h =>
      rw [show (Event.answered _ _).reply = [] from rfl, List.append_nil]
      cases f with
      | none =>
          obtain ⟨-, rfl⟩ := FrameStream.next_eq_none h
          exact hs
      | some f =>
          obtain ⟨-, hleft, hdecoder⟩ := FrameStream.next_eq_some h
          obtain ⟨w, hderives, htakes⟩ := FrameStream.next_takes h
          exact hs.advance hconn (each_singleton hderives) htakes
            (by rw [List.length_singleton]; omega) hdecoder
  | @drained s s' n h =>
      rw [show (Event.answered _ _).reply = [] from rfl, List.append_nil]
      obtain ⟨items, w, hlen, hitems, htakes, hend, hdecoder⟩ :=
        FrameStream.drain_takes hconn h
      exact (hs.advance hconn hitems htakes (by omega) hdecoder).ended hend
  | closed => exact .of_gone FrameStream.isConnected_close
  | @dropped s =>
      rw [show (Event.answered _ _).reply = [] from rfl, List.append_nil]
      by_cases hend : s.remaining = 0
      · exact hs.ended hend
      · apply InStep.of_gone
        show isConnected s.drop = false
        rw [FrameStream.drop, if_pos (Nat.pos_of_ne_zero hend)]
        exact FrameStream.isConnected_close

/-- Every event keeps a link in step. -/
theorem Step.inStep (h : s.Step e s') (hs : s.InStep served total) :
    s'.InStep (served ++ e.reply) (total ++ e.input) := by
  by_cases hgone : s.Gone
  · exact .of_gone (h.of_gone hgone).1
  · have hconn : isConnected s.link = true := by
      simpa [Gone] using hgone
    cases h with
    | failed h => exact .of_gone (gone_of_error h)
    | arrived h =>
        rw [show (Event.arrived _).reply = [] from rfl, List.append_nil]
        exact hs.arrive hconn h
    | answered h =>
        rw [show (Event.answered _ _).input = [] from rfl, List.append_nil]
        exact (served_of_serve h).inStep hconn hs

/-! ## Whole sessions -/

namespace Run

variable {s₀ : Session τ} {t₀ : τ} {es : List Event}

theorem inStep (h : Run (.idle t₀) es s) :
    s.InStep (es.flatMap Event.reply) (Lawful.upcoming t₀ ++ es.flatMap Event.input) := by
  induction h with
  | start =>
      intro _
      exact ⟨[], .nil, List.append_nil _⟩
  | step _ hs ih =>
      rw [List.flatMap_append, List.flatMap_append, List.flatMap_singleton, List.flatMap_singleton,
        ← List.append_assoc]
      exact hs.inStep ih

/-- An end is for good. -/
theorem gone_of_final (h : Run s₀ es s) (he : e ∈ es) (hfinal : e.Final) : s.Gone := by
  induction h with
  | start => exact absurd he List.not_mem_nil
  | step _ hs ih =>
      rcases List.mem_append.mp he with he | he
      · exact (hs.of_gone (ih he)).1
      · rw [List.mem_singleton] at he
        rw [he] at hfinal
        exact hs.gone_of_final hfinal

theorem pairwise (h : Run s₀ es s) : es.Pairwise fun e e' => e.Final → ¬e'.Yields := by
  induction h with
  | start => exact .nil
  | step h hs ih =>
      refine List.pairwise_append.mpr ⟨ih, List.pairwise_singleton _ _, ?_⟩
      intro e he e' he' hfinal
      rw [List.mem_singleton] at he'
      rw [he']
      -- the last event finds the link as its end left it
      exact (hs.of_gone (h.gone_of_final he hfinal)).2

/-- **A link is never out of step.** As long as it is connected, the bytes that were
consumed are one complete reply for each one served, in order. And nothing is read any
more after the first failure, or after a stream was closed or dropped before its end,
whatever arrives. -/
theorem never_out_of_step (h : Run (.idle t₀) es s) :
    s.InStep (es.flatMap Event.reply) (Lawful.upcoming t₀ ++ es.flatMap Event.input) ∧
      es.Pairwise fun e e' => e.Final → ¬e'.Yields :=
  ⟨h.inStep, h.pairwise⟩

/-- Of `*2 +a +b` one element is read. If the rest is drained, one complete reply is
consumed; if the stream is dropped, nothing that arrives after that is read. -/
theorem never_out_of_step_midway :
    let l : MemoryLink := { input := [42, 50, 13, 10, 43, 97, 13, 10] }
    let opening := [Event.answered (.openStream {}) (.opened .array 2),
      .answered .next (.element (some (.simple [97]))), .arrived [43, 98, 13, 10]]
    (Run (.idle l) (opening ++ [.answered .drain (.drained 1)]) (.idle { l with input := [] }) ∧
      InStep [({}, none)] (l.input ++ [43, 98, 13, 10]) (.idle { l with input := [] })) ∧
    ∃ (s : Session MemoryLink) (e : Failure),
      let es := opening ++ [.answered .drop (.dropped 1), .arrived [43, 99, 13, 10],
        .failed (.decode {}) e]
      Run (.idle l) es s ∧ es.Pairwise fun e e' => e.Final → ¬e'.Yields := by
  intro l opening
  have hstart : Run (.idle l) [] (.idle l) := .start
  have hopening := hstart
      |>.step (.answered (q := .openStream {}) (a := .opened .array 2) rfl)
      |>.step (.answered (q := .next) (a := .element (some (.simple [97]))) rfl)
      |>.step (.arrived (MemoryLink.arrives_feed _ [43, 98, 13, 10]))
  have hdrained := hopening.step (.answered (q := .drain) (a := .drained 1) rfl)
  have hdropped := hopening
      |>.step (.answered (q := .drop) (a := .dropped 1) rfl)
      |>.step (.arrived (MemoryLink.arrives_feed _ [43, 99, 13, 10]))
      |>.step (.failed (q := .decode {}) rfl)
  exact ⟨⟨hdrained, hdrained.never_out_of_step.1⟩, _, _, hdropped, hdropped.never_out_of_step.2⟩

end Run

end Session

end RespClient
