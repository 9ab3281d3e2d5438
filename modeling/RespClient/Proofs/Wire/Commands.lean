import RespClient.Proofs.Wire.RoundTrip
import Mathlib.Logic.Function.Basic

/-!
# Commands on the wire

A command goes out as an array of bulk strings, whether it is written as a command or as a
frame. Every part stands behind its own length, so no part is ever taken for something else,
whatever bytes it is made of: a decoder gets the parts back as they were, and no bytes begin
with two different commands.
-/

namespace RespClient

/-! ## Counted pieces are told apart -/

namespace Encoding

variable {tag : Tag} {b b' r r' : Bytes}

/-- A line ends at its first line feed, so what comes behind does not matter. -/
theorem line_append_inj (hb : Bytes.lf ∉ b) (hb' : Bytes.lf ∉ b')
    (h : line tag b ++ r = line tag b' ++ r') : b = b' ∧ r = r' := by
  have hsplit : ∀ {b r : Bytes}, Bytes.lf ∉ b →
      MemoryLink.splitLine (b ++ Bytes.crlf ++ r) = some (b ++ [Bytes.cr], r) := by
    intro b r hb
    refine MemoryLink.splitLine_eq_some.mpr ⟨?_, by simp [Bytes.crlf]⟩
    rw [List.mem_append, List.mem_singleton, not_or]
    exact ⟨hb, by decide⟩
  have hbytes : b ++ Bytes.crlf ++ r = b' ++ Bytes.crlf ++ r' := (List.cons.inj h).2
  have hlines := hsplit (r := r) hb
  rw [hbytes, hsplit hb'] at hlines
  obtain ⟨hline, hrest⟩ := Prod.mk.inj (Option.some.inj hlines)
  exact ⟨(List.append_cancel_right hline).symm, hrest.symm⟩

theorem header_append_inj {n n' : Nat} (h : header tag n ++ r = header tag n' ++ r') :
    n = n' ∧ r = r' := by
  obtain ⟨hbytes, hrest⟩ :=
    line_append_inj (Numeral.lf_notMem_natBytes n) (Numeral.lf_notMem_natBytes n') h
  exact ⟨Numeral.natBytes_injective hbytes, hrest⟩

theorem blob_append_inj (h : blob tag b ++ r = blob tag b' ++ r') : b = b' ∧ r = r' := by
  simp only [blob, List.append_assoc] at h
  obtain ⟨hlength, hbytes⟩ := header_append_inj h
  obtain ⟨rfl, hbehind⟩ := List.append_inj hbytes hlength
  exact ⟨rfl, List.append_cancel_left hbehind⟩

/-- Equally many blobs are told apart one after another. -/
theorem flatMap_blob_append_inj {bs bs' : List Bytes} (hlength : bs.length = bs'.length)
    (h : bs.flatMap (blob tag) ++ r = bs'.flatMap (blob tag) ++ r') : bs = bs' ∧ r = r' := by
  induction bs generalizing bs' with
  | nil =>
      obtain rfl := List.length_eq_zero_iff.mp hlength.symm
      exact ⟨rfl, h⟩
  | cons b bs ih =>
      obtain ⟨b', bs', rfl⟩ := List.exists_cons_of_length_eq_add_one hlength.symm
      simp only [List.flatMap_cons, List.append_assoc] at h
      obtain ⟨rfl, hbehind⟩ := blob_append_inj h
      obtain ⟨rfl, hrest⟩ := ih (Nat.succ.inj hlength) hbehind
      exact ⟨rfl, hrest⟩

end Encoding

/-! ## A command as a frame -/

namespace Frame

variable {p : Protocol} {m : Nat} {bs : List Bytes}

theorem encodeAll_bulk (p : Protocol) (bs : List Bytes) :
    encodeAll p (bs.map .bulk) = bs.flatMap (Encoding.blob .bulk) := by
  induction bs with
  | nil => rfl
  | cons b bs ih => rw [List.map_cons, encodeAll, ih, encode, List.flatMap_cons]

theorem allWellFormed_bulk (h : ∀ b ∈ bs, b.length ≤ m) : AllWellFormed m (bs.map .bulk) := by
  refine allWellFormed_iff.mpr fun f hf => ?_
  obtain ⟨b, hb, rfl⟩ := List.mem_map.mp hf
  exact h b hb

theorem allClassic_bulk (bs : List Bytes) : AllClassic (bs.map .bulk) := by
  refine allClassic_iff.mpr fun f hf => ?_
  obtain ⟨b, -, rfl⟩ := List.mem_map.mp hf
  exact trivial

end Frame

namespace Command

variable {c c' : Command} {d : Decoder} {r r' : Bytes}

/-- Either revision writes the frame of a command as the command is written. -/
theorem encode_toFrame (p : Protocol) (c : Command) : c.toFrame.encode p = c.encode := by
  rw [toFrame, Frame.encode, Frame.encodeAll_bulk, List.length_map]
  rfl

/-- Bytes begin with at most one command. -/
theorem encode_append_inj (h : c.encode ++ r = c'.encode ++ r') : c = c' ∧ r = r' := by
  unfold encode at h
  rw [List.append_assoc, List.append_assoc] at h
  obtain ⟨hsize, h⟩ := Encoding.header_append_inj h
  have hlength : c.parts.length = c'.parts.length := hsize
  obtain ⟨hparts, hrest⟩ := Encoding.flatMap_blob_append_inj hlength h
  obtain ⟨verb, args⟩ := c
  obtain ⟨verb', args'⟩ := c'
  obtain ⟨rfl, rfl⟩ := List.cons.inj hparts
  exact ⟨rfl, hrest⟩

theorem encode_ne_nil (c : Command) : c.encode ≠ [] := by
  rintro h
  cases h

theorem flatMap_encode_injective : Function.Injective fun cs : List Command => cs.flatMap encode := by
  intro cs cs' h
  induction cs generalizing cs' with
  | nil =>
      cases cs' with
      | nil => rfl
      | cons c' cs' => exact absurd (List.append_eq_nil_iff.mp h.symm).1 c'.encode_ne_nil
  | cons c cs ih =>
      cases cs' with
      | nil => exact absurd (List.append_eq_nil_iff.mp h).1 c.encode_ne_nil
      | cons c' cs' =>
          obtain ⟨rfl, hrest⟩ := encode_append_inj h
          rw [ih hrest]

/-- A command is read as the array of its parts, and what comes behind is left. -/
theorem decode_encode {l : MemoryLink} (hc : l.connected = true) (hin : l.input = c.encode ++ r)
    (hmemory : l.input.length < 2 ^ 63) (hcount : c.size ≤ d.maxFrameSize / 16)
    (hparts : ∀ part ∈ c.parts, part.length ≤ d.maxFrameSize) :
    d.decode l = (.ok (.array (c.parts.map .bulk)), { l with input := r }) := by
  have hformed : c.toFrame.WellFormed d.maxFrameSize :=
    ⟨by rwa [List.length_map], Frame.allWellFormed_bulk hparts⟩
  -- the frame is one of the second revision, so that any decoder takes it
  have hderives := Frame.derives_encode (p := .resp2) (q := d.protocol) c.toFrame hformed
    (.inr ⟨rfl, Frame.allClassic_bulk c.parts⟩)
  rw [encode_toFrame] at hderives
  rw [hin, List.length_append] at hmemory
  exact Decoder.decode_of_derives hc hin hderives (by omega)

/-- **Commands are safe for any bytes.** An encoder of either revision writes a command as it
writes the frame of the command, and adds what the command is by itself. A decoder of either
revision whose limit allows for the number of parts and the length of each gets them back as
they were and leaves what comes behind. Different commands are different bytes, and so are
different sequences of commands. -/
theorem encode_binarySafe :
    (∀ (c : Command) (e : Encoder), e.putCommand c = e.put c.toFrame ∧
      (e.putCommand c).buffer = e.buffer ++ (Encoder.putCommand c {}).take.1) ∧
    (∀ (c : Command) (d : Decoder) (l : MemoryLink) (r : Bytes), l.connected = true →
      l.input = (Encoder.putCommand c {}).take.1 ++ r → l.input.length < 2 ^ 63 →
      c.size ≤ d.maxFrameSize / 16 → (∀ part ∈ c.parts, part.length ≤ d.maxFrameSize) →
        d.decode l = (.ok (.array (c.parts.map .bulk)), { l with input := r })) ∧
    Function.Injective encode ∧ Function.Injective fun cs : List Command => cs.flatMap encode := by
  refine ⟨fun c e => ⟨?_, rfl⟩, fun c d l r hc hin hmemory hcount hparts => ?_, ?_,
    flatMap_encode_injective⟩
  · rw [Encoder.putCommand, Encoder.put, encode_toFrame]
  · exact decode_encode hc hin hmemory hcount hparts
  · intro c c' h
    exact (encode_append_inj (congrArg (· ++ []) h)).1

/-- Parts that look like a line end, nothing, a header and a whole command, under the least limit
that allows for four of them. -/
theorem encode_binarySafe_lookalikes :
    let c : Command := ⟨[13, 10], [[], [42, 49, 13, 10], [42, 49, 13, 10, 36, 48, 13, 10, 13, 10]]⟩
    (∀ part ∈ c.parts, part.length ≤ 64) ∧
      (⟨.resp3, 64⟩ : Decoder).decode ({ input := c.encode ++ [13] } : MemoryLink) =
        (.ok (.array (c.parts.map .bulk)), { input := [13] }) := by
  intro c
  have hparts : ∀ part ∈ c.parts, part.length ≤ 64 := by decide
  exact ⟨hparts, encode_binarySafe.2.1 c ⟨.resp3, 64⟩ { input := c.encode ++ [13] } [13] rfl rfl
    (by decide) (by decide) hparts⟩

end Command

end RespClient
