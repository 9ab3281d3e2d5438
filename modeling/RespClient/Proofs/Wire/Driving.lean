import RespClient.Proofs.Wire.Commands
import RespClient.Proofs.Wire.Congruence
import RespClient.Wire.Exchange

/-!
# What is done with a link

A client writes commands on a link, reads from it, and gives it up at last. The bytes on the link
say what was written: reading adds none, a command that was written adds all of its own, and one
whose writing broke off adds the first of them. So a record of the commands that were written can
be held against the bytes.
-/

namespace RespClient

open Transport RespClient.Action

variable {τ : Type} [Transport τ]

/-! ## Reading -/

/-- The link was read, or it was given up. -/
inductive Heard : τ → τ → Prop
  | idle (t : τ) : Heard t t
  | line (t : τ) : Heard t (readLine t).2
  | bytes (n : Nat) (t : τ) : Heard t (readBytes n t).2
  | givenUp (t : τ) : Heard t (disconnect t)
  | trans {t t' t'' : τ} (h : Heard t t') (h' : Heard t' t'') : Heard t t''

/-- Reading leaves the bytes that were written. -/
theorem Heard.output [Lawful τ] {t t' : τ} (h : Heard t t') :
    Lawful.output t' = Lawful.output t := by
  induction h with
  | idle => rfl
  | line t => exact Lawful.output_readLine t
  | bytes n t => exact Lawful.output_readBytes n t
  | givenUp t => exact Lawful.output_disconnect t
  | trans _ _ ih ih' => exact ih'.trans ih

namespace Decoder

variable {α : Type}

/-- An action that does nothing but read. -/
def Hearing (x : Action τ α) : Prop :=
  ∀ t, Heard t (x t).2

theorem Hearing.congruence : Congruence fun α (x : Action τ α) (_ : Action τ α) => Hearing x where
  give _ t := .idle t
  bind {α β x y f g} hx hf t := by
    have hfirst := hx t
    rcases h : x t with ⟨out, t'⟩
    rw [h] at hfirst
    cases out with
    | ok a =>
        rw [bind_of_ok h]
        exact hfirst.trans (hf a t')
    | error e => rwa [bind_of_error h]
    | stalled => rwa [bind_of_stalled h]
  stall t := .idle t
  refuse _ _ t := .idle t
  readLine := .line
  readBytes {n} _ := .bytes n

/-- Decoding reads, and gives the link up at worst. -/
theorem Hearing.decode (d : Decoder) : Hearing (d.decode : Action τ Frame) := by
  intro t
  have hread : Heard t (d.readElement t).2 :=
    Hearing.congruence.frame d (pending t) t
  rcases h : d.readElement t with ⟨out, t'⟩
  rw [h] at hread
  cases out with
  | ok f =>
      rw [Decoder.decode, orDisconnect_of_ok h]
      exact hread
  | error e =>
      rw [Decoder.decode, orDisconnect_of_error h]
      exact hread.trans (.givenUp t')
  | stalled =>
      rw [Decoder.decode, orDisconnect_of_stalled h]
      exact hread

end Decoder

/-! ## Writing -/

/-- Commands were written on the link, one after another. Besides, it was read, and other writes
broke off. -/
inductive Driven : List Command → τ → τ → Prop
  | reads {t t' : τ} (h : Heard t t') : Driven [] t t'
  | writes {c : Command} {t t' : τ} (h : write c.encode t = (.ok (), t')) : Driven [c] t t'
  | breaksOff {c : Command} {t t' : τ} {r : Outcome Unit} (h : write c.encode t = (r, t'))
      (hr : r ≠ .ok ()) : Driven [] t t'
  | trans {cs cs' : List Command} {t t' t'' : τ} (h : Driven cs t t') (h' : Driven cs' t' t'') :
      Driven (cs ++ cs') t t''

/-- The bytes spell out commands, in order. Between them may stand the first bytes of commands
whose writing broke off, but never all of them. -/
inductive Spells : List Command → Bytes → Prop
  | nothing : Spells [] []
  | command (c : Command) : Spells [c] c.encode
  | piece {c : Command} {part rest : Bytes} (hpart : c.encode = part ++ rest) (hrest : rest ≠ []) :
      Spells [] part
  | append {cs cs' : List Command} {w w' : Bytes} (h : Spells cs w) (h' : Spells cs' w') :
      Spells (cs ++ cs') (w ++ w')

/-- **The commands that were written are on the link**, each with all of its bytes. -/
theorem Driven.spells [Lawful τ] {cs : List Command} {t t' : τ} (h : Driven cs t t') :
    ∃ w, Spells cs w ∧ Lawful.output t' = Lawful.output t ++ w := by
  induction h with
  | reads h => exact ⟨[], .nothing, by rw [h.output, List.append_nil]⟩
  | @writes c t t' h =>
      obtain ⟨part, rest, hsplit, hout, hdone⟩ := Lawful.output_write h c.encode_ne_nil
      obtain rfl := hdone.mp rfl
      rw [List.append_nil] at hsplit
      exact ⟨c.encode, .command c, by rw [hout, hsplit]⟩
  | @breaksOff c t t' r h hr =>
      obtain ⟨part, rest, hsplit, hout, hdone⟩ := Lawful.output_write h c.encode_ne_nil
      exact ⟨part, .piece hsplit (mt hdone.mpr hr), hout⟩
  | trans _ _ ih ih' =>
      obtain ⟨w, hw, hout⟩ := ih
      obtain ⟨w', hw', hout'⟩ := ih'
      exact ⟨w ++ w', .append hw hw', by rw [hout', hout, List.append_assoc]⟩

/-- An exchange that succeeds writes its command and nothing else. -/
theorem output_exchange [Lawful τ] {d : Decoder} {c : Command} {f : Frame} {t t' : τ}
    (h : exchange d c t = (.ok f, t')) : Lawful.output t' = Lawful.output t ++ c.encode := by
  obtain ⟨u, t₁, hwrite, hdecode⟩ := bind_eq_ok.mp h
  obtain ⟨part, rest, hsplit, hout, hdone⟩ := Lawful.output_write hwrite c.encode_ne_nil
  obtain rfl := hdone.mp rfl
  rw [List.append_nil] at hsplit
  have hread := Decoder.Hearing.decode d t₁
  rw [hdecode] at hread
  rw [hread.output, hout, hsplit]

end RespClient
