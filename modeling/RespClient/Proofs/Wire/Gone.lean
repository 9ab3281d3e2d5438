import RespClient.Proofs.Wire.Session
import RespClient.Proofs.Wire.Depth

/-!
# A link that was given up

Every failure gives the link up, and so do a stream that is closed and one that is
dropped before its end. From then on every request for a frame fails, whatever arrives.
-/

namespace RespClient

open Transport

variable {τ : Type} [Transport τ] [Lawful τ]

namespace Decoder

open RespClient.Action

theorem readHeader_of_gone {d : Decoder} {t : τ} (h : isConnected t = false) :
    ∃ e, d.readHeader t = (.error e, t) := by
  obtain ⟨e, hread⟩ := Lawful.readLine_of_gone h
  exact ⟨e, bind_of_error hread⟩

theorem readElement_of_gone {d : Decoder} {t : τ} (h : isConnected t = false) :
    ∃ e, d.readElement t = (.error e, t) := by
  obtain ⟨e, hread⟩ := d.readHeader_of_gone h
  refine ⟨e, ?_⟩
  rw [readElement_eq]
  exact bind_of_error hread

theorem decode_of_gone {d : Decoder} {t : τ} (h : isConnected t = false) :
    ∃ e, d.decode t = (.error e, disconnect t) := by
  obtain ⟨e, hread⟩ := d.readElement_of_gone h
  exact ⟨e, orDisconnect_of_error hread⟩

theorem openStream_of_gone {d : Decoder} {t : τ} (h : isConnected t = false) :
    ∃ e, d.openStream t = (.error e, disconnect t) := by
  obtain ⟨e, hread⟩ := d.readHeader_of_gone h
  refine ⟨e, orDisconnect_of_error ?_⟩
  rw [openElement_eq]
  exact bind_of_error hread

theorem isConnected_of_error {α : Type} {x : Action τ α} {t t' : τ} {e : Failure}
    (h : orDisconnect x t = (.error e, t')) : isConnected t' = false := by
  obtain ⟨u, -, rfl⟩ := orDisconnect_eq_error h
  exact Lawful.isConnected_disconnect u

end Decoder

open RespClient.Action

theorem exchange_of_gone {d : Decoder} {c : Command} {t : τ} (h : isConnected t = false) :
    ∃ e, exchange d c t = (.error e, t) := by
  obtain ⟨e, hwrite⟩ := Lawful.write_of_gone c.encode h
  exact ⟨e, bind_of_error hwrite⟩

/-- An exchange that fails in either half ends the link. -/
theorem isConnected_of_exchange_error {d : Decoder} {c : Command} {t t' : τ} {e : Failure}
    (h : exchange d c t = (.error e, t')) : isConnected t' = false := by
  have h : (write c.encode >>= fun _ => d.decode) t = (.error e, t') := h
  rcases bind_eq_error.mp h with hwrite | ⟨u, t₁, -, hdecode⟩
  · exact Lawful.write_error hwrite
  · exact Decoder.isConnected_of_error hdecode

namespace FrameStream

variable {s s' : FrameStream τ}

theorem isConnected_close : isConnected s.close = false :=
  Lawful.isConnected_disconnect s.source

theorem isConnected_drop_of_gone (h : isConnected s.source = false) :
    isConnected s.drop = false := by
  unfold drop
  split
  · exact isConnected_close
  · exact h

/-- A failed call leaves nothing to read and the link given up. -/
theorem next_eq_error {e : Failure} (h : s.next = (.error e, s')) :
    s'.remaining = 0 ∧ isConnected s'.source = false := by
  unfold next at h
  split at h
  · cases h
  · split at h
    · cases h
    · cases h
      exact ⟨rfl, Lawful.isConnected_disconnect _⟩
    · cases h

theorem skip_eq_error {n skipped : Nat} {e : Failure} (h : skip n skipped s = (.error e, s')) :
    isConnected s'.source = false := by
  induction n generalizing skipped s with
  | zero => cases h
  | succ n ih =>
      rw [skip] at h
      split at h
      · cases h
      · exact ih h
      · rename_i e' s₁ hnext
        cases h
        exact (next_eq_error hnext).2
      · cases h

/-- On a link that was given up, an open stream has no element to give. -/
theorem next_of_gone (h : isConnected s.source = false) :
    s.remaining = 0 ∧ s.next = (.ok none, s) ∨
      ∃ e, s.next = (.error e, { s with remaining := 0, source := disconnect s.source }) := by
  rcases hn : s.remaining with _ | n
  · refine .inl ⟨rfl, ?_⟩
    unfold next
    rw [hn]
  · obtain ⟨e, hread⟩ := s.decoder.readElement_of_gone h
    refine .inr ⟨e, ?_⟩
    unfold next
    rw [hn, hread]
    rfl

theorem skip_of_gone (h : isConnected s.source = false) (n skipped : Nat) :
    isConnected (skip n skipped s).2.source = false := by
  cases n with
  | zero => exact h
  | succ n =>
      rcases next_of_gone h with ⟨-, hnext⟩ | ⟨e, hnext⟩
      · rw [skip, hnext]
        exact h
      · rw [skip, hnext]
        exact Lawful.isConnected_disconnect s.source

end FrameStream

namespace Session

variable {s s' : Session τ} {q : Request} {e : Event}

/-- A link that was given up fails every request for a frame, and stays given up. -/
theorem serve_of_gone {r : Outcome Answer} (hgone : s.Gone) (h : s.serve q = some (r, s')) :
    s'.Gone ∧ ∀ a, r = .ok a → ¬(Event.answered q a).Yields := by
  cases s with
  | idle t =>
      have hgone : isConnected t = false := hgone
      cases q with
      | decode d =>
          obtain ⟨e, hdecode⟩ := d.decode_of_gone hgone
          rw [serve, hdecode] at h
          cases h
          exact ⟨Lawful.isConnected_disconnect t, by rintro a ⟨⟩⟩
      | exchange d c =>
          obtain ⟨e, hexchange⟩ := exchange_of_gone (d := d) (c := c) hgone
          rw [serve, hexchange] at h
          cases h
          exact ⟨hgone, by rintro a ⟨⟩⟩
      | openStream d =>
          obtain ⟨e, hopen⟩ := d.openStream_of_gone hgone
          rw [serve, hopen] at h
          cases h
          exact ⟨Lawful.isConnected_disconnect t, by rintro a ⟨⟩⟩
      | _ => cases h
  | streaming s =>
      cases q with
      | next =>
          rcases FrameStream.next_of_gone hgone with ⟨-, hnext⟩ | ⟨e, hnext⟩
          · rw [serve, hnext] at h
            cases h
            refine ⟨hgone, ?_⟩
            rintro a ⟨⟩
            exact id
          · rw [serve, hnext] at h
            cases h
            exact ⟨Lawful.isConnected_disconnect _, by rintro a ⟨⟩⟩
      | drain =>
          cases h
          refine ⟨FrameStream.isConnected_drop_of_gone (FrameStream.skip_of_gone hgone _ 0), ?_⟩
          intro a h
          obtain ⟨n, -, rfl⟩ := Outcome.map_eq_ok.mp h
          exact id
      | close =>
          cases h
          refine ⟨FrameStream.isConnected_close, ?_⟩
          rintro a ⟨⟩
          exact id
      | drop =>
          cases h
          refine ⟨FrameStream.isConnected_drop_of_gone hgone, ?_⟩
          rintro a ⟨⟩
          exact id
      | _ => cases h

/-- Whatever fails gives the link up. -/
theorem gone_of_error {e : Failure} (h : s.serve q = some (.error e, s')) : s'.Gone := by
  cases s with
  | idle t =>
      cases q with
      | decode d =>
          obtain ⟨hr, hs⟩ := Prod.mk.inj (Option.some.inj h)
          rw [← hs]
          exact Decoder.isConnected_of_error (Prod.ext (Outcome.map_eq_error.mp hr) rfl)
      | exchange d c =>
          obtain ⟨hr, hs⟩ := Prod.mk.inj (Option.some.inj h)
          rw [← hs]
          exact isConnected_of_exchange_error (Prod.ext (Outcome.map_eq_error.mp hr) rfl)
      | openStream d =>
          rw [serve] at h
          split at h
          · cases h
          · cases h
          · rename_i hopen
            cases h
            exact Decoder.isConnected_of_error hopen
          · cases h
      | _ => cases h
  | streaming s =>
      cases q with
      | next =>
          obtain ⟨hr, hs⟩ := Prod.mk.inj (Option.some.inj h)
          rw [← hs]
          exact (FrameStream.next_eq_error (Prod.ext (Outcome.map_eq_error.mp hr) rfl)).2
      | drain =>
          obtain ⟨hr, hs⟩ := Prod.mk.inj (Option.some.inj h)
          rw [← hs]
          apply FrameStream.isConnected_drop_of_gone
          exact FrameStream.skip_eq_error (Prod.ext (Outcome.map_eq_error.mp hr) rfl)
      | _ => cases h

/-- After its end a link gives nothing any more. -/
theorem Step.of_gone (h : s.Step e s') (hgone : s.Gone) : s'.Gone ∧ ¬e.Yields := by
  cases h with
  | answered h =>
      obtain ⟨hgone', hyields⟩ := serve_of_gone hgone h
      exact ⟨hgone', hyields _ rfl⟩
  | failed h => exact ⟨(serve_of_gone hgone h).1, id⟩
  | arrived h =>
      refine ⟨?_, id⟩
      unfold Gone
      rw [link_relink, h.1]
      exact hgone

theorem Step.gone_of_final (h : s.Step e s') (hfinal : e.Final) : s'.Gone := by
  cases h with
  | failed h => exact gone_of_error h
  | arrived h => exact absurd hfinal id
  | answered h =>
      cases served_of_serve h with
      | closed => exact FrameStream.isConnected_close
      | @dropped s =>
          have hunread : 0 < s.remaining := hfinal
          show isConnected s.drop = false
          rw [FrameStream.drop, if_pos hunread]
          exact FrameStream.isConnected_close
      | _ => exact absurd hfinal id

end Session

end RespClient
