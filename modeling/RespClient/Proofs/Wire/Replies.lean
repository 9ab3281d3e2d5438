import RespClient.Proofs.Wire.Completeness
import RespClient.Proofs.Wire.Answering
import RespClient.Proofs.Wire.Truncation

/-!
# Replies, one after another

A client that decodes replies until one fails gets some frames and a failure. On a link that
answers it comes to that failure, since every reply takes bytes off the link; what it gets is
determined by the link. If the input of a link in memory is only the beginning of more replies,
the failure is the loss of the connection.
-/

namespace RespClient.Decoder

open Transport RespClient.Action

variable {τ : Type} [Transport τ] {d : Decoder}

/-- Decoding replies one after another gives these frames, then fails with a failure of this
kind and gives the transport up. -/
inductive Replies (d : Decoder) : τ → List Frame → FailureKind → Prop
  | stop {t t' : τ} {e : Failure} (h : d.decode t = (.error e, t'))
      (hgone : isConnected t' = false) : Replies d t [] e.kind
  | reply {t t' : τ} {f : Frame} {frames : List Frame} {kind : FailureKind}
      (h : d.decode t = (.ok f, t')) (hs : Replies d t' frames kind) :
      Replies d t (f :: frames) kind

theorem Replies.unique {t : τ} {frames frames' : List Frame} {kind kind' : FailureKind}
    (h : d.Replies t frames kind) (h' : d.Replies t frames' kind') :
    frames = frames' ∧ kind = kind' := by
  induction h generalizing frames' with
  | stop h _ =>
      cases h' with
      | stop h' _ =>
          rw [h] at h'
          cases h'
          exact ⟨rfl, rfl⟩
      | reply h' _ =>
          rw [h] at h'
          cases h'
  | reply h _ ih =>
      cases h' with
      | stop h' _ =>
          rw [h] at h'
          cases h'
      | reply h' hs' =>
          rw [h] at h'
          cases h'
          obtain ⟨rfl, rfl⟩ := ih hs'
          exact ⟨rfl, rfl⟩

/-- The failure comes at last: every reply takes bytes off the link. -/
theorem exists_replies [Lawful τ] (d : Decoder) {t : τ} (ht : Answering t) :
    ∃ frames kind, d.Replies t frames kind := by
  induction hn : pending t using Nat.strong_induction_on generalizing t with
  | _ n ih =>
      rcases (d.ends_decode ht).cases with ⟨f, t', hdecode, ht'⟩ | ⟨e, t', hdecode, -⟩
      · obtain ⟨w, hderives, htakes⟩ := d.decode_sound hdecode
        have hshorter : pending t' < n := by
          have := hderives.three_le
          rw [← hn, htakes.pending_eq]
          omega
        obtain ⟨frames, kind, hreplies⟩ := ih _ hshorter ht' rfl
        exact ⟨f :: frames, kind, .reply hdecode hreplies⟩
      · obtain ⟨u, -, rfl⟩ := orDisconnect_eq_error hdecode
        exact ⟨[], e.kind, .stop hdecode (Lawful.isConnected_disconnect u)⟩

/-- If more bytes would have made for one more reply, the connection is lost at the end of
those that there are. -/
theorem Replies.connection_of_more {l : MemoryLink} {frames rest : List Frame} {f : Frame}
    {kind kind' : FailureKind} (h : d.Replies l frames kind) (hclosed : l.atEnd = .closed)
    {more : Bytes} (hmore : d.Replies (l.feed more) (frames ++ f :: rest) kind') :
    kind = .connection := by
  induction h with
  | @stop l l' e h hgone =>
      cases hmore with
      | reply hmore _ =>
          rcases d.readElement_steady.run l more with hend | hsame
          · obtain ⟨l'', hlost, -⟩ := decode_of_exhausted hclosed hend
            rw [h] at hlost
            cases hlost
            rfl
          · obtain ⟨u, hread, -⟩ := orDisconnect_eq_error h
            rw [hread] at hsame
            rw [decode, orDisconnect_of_error hsame] at hmore
            cases hmore
  | @reply l l' _ _ _ h _ ih =>
      have hclosed' : l'.atEnd = .closed := by
        obtain ⟨input, hkeeps⟩ := d.readElement_steady.keeps l
        rw [orDisconnect_eq_ok.mp h] at hkeeps
        rw [show l' = { l with input } from hkeeps]
        exact hclosed
      cases hmore with
      | reply hmore hs =>
          rw [decode_feed h more] at hmore
          cases hmore
          exact ih hclosed' hs

end RespClient.Decoder
