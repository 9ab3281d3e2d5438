import Mathlib.Tactic.SplitIfs
import RespClient.Proofs.Text.Utf8

/-!
# Text that was read

Reading bytes as text loses what is no UTF-8. What is left can be written again: bytes of
ASCII come back as they were, and a line stays a line, since the reader makes no line feed
out of other bytes. A character that has begun with a byte above ASCII ends above ASCII.
-/

namespace RespClient.Utf8

theorem toNat_ofNat_of_valid {n : Nat} (h : n.isValidChar) : (Char.ofNat n).val.toNat = n := by
  rw [Char.ofNat, dif_pos h]
  rfl

/-- Characters of ASCII are written as one byte each. -/
theorem encode_ofList_of_ascii {cs : List Char} (h : ∀ c ∈ cs, c.toNat < 0x80) :
    encode (String.ofList cs) = cs.map fun c => UInt8.ofNat c.toNat := by
  rw [encode, String.toList_ofList]
  induction cs with
  | nil => rfl
  | cons c rest ih =>
      have hc : c.val.toNat ≤ 0x7F := Nat.le_of_lt_succ (h c List.mem_cons_self)
      rw [List.flatMap_cons, ih fun d hd => h d (List.mem_cons_of_mem _ hd),
        String.utf8EncodeChar, if_pos hc]
      rfl

/-- Bytes of ASCII are written again as they were read. -/
theorem encode_lossy_of_ascii {b : Bytes} (h : ∀ x ∈ b, x.toNat < 0x80) :
    encode (lossy b) = b := by
  have hchar : ∀ x ∈ b, (Char.ofNat x.toNat).toNat = x.toNat := by
    intro x hx
    have hx := h x hx
    exact toNat_ofNat_of_valid (.inl (by omega))
  have hencode : encode (String.ofList (b.map fun x => Char.ofNat x.toNat)) = b := by
    rw [encode_ofList_of_ascii, List.map_map, List.map_congr_left (g := id), List.map_id]
    · intro x hx
      rw [Function.comp_apply, hchar x hx, UInt8.ofNat_toNat, id]
    · rw [List.forall_mem_map]
      intro x hx
      rw [hchar x hx]
      exact h x hx
  have hlossy := lossy_encode (String.ofList (b.map fun x => Char.ofNat x.toNat))
  rw [hencode] at hlossy
  rw [hlossy, hencode]

/-- The bits read so far are too many for ASCII, or will be with the next byte. -/
def Begun.BeyondAscii (b : Begun) : Prop :=
  0x80 ≤ b.low ∧
    (0x80 ≤ b.code * 64 + (b.low - 0x80) ∨ 2 ≤ b.owed ∧ 2 ≤ b.code * 64 + (b.low - 0x80))

theorem first_beyondAscii {byte : UInt8} {b : Begun} (h : first byte = .begins b) :
    b.BeyondAscii := by
  unfold first at h
  generalize byte.toNat = n at h
  dsimp only at h
  split_ifs at h <;> simp only [First.begins.injEq] at h <;> subst h <;>
    simp only [Begun.BeyondAscii] <;> omega

theorem newline_ne_of_ne_lf {byte : UInt8} {c : Char} (h : first byte = .whole c)
    (hbyte : byte ≠ Bytes.lf) : '\n' ≠ c := by
  unfold first at h
  dsimp only at h
  split_ifs at h with hascii
  rintro rfl
  have hval := toNat_ofNat_of_valid (n := byte.toNat) (.inl (by omega))
  rw [First.whole.inj h] at hval
  exact hbyte (UInt8.toNat_inj.mp hval.symm)

theorem newline_ne_ofNat {n : Nat} (h : 0x80 ≤ n) : '\n' ≠ Char.ofNat n := by
  intro heq
  have hval : 10 = (Char.ofNat n).val.toNat := congrArg (fun c : Char => c.val.toNat) heq
  by_cases hvalid : n.isValidChar
  · rw [toNat_ofNat_of_valid hvalid] at hval
    omega
  · rw [Char.ofNat, dif_neg hvalid] at hval
    exact absurd hval (by decide)

namespace Reader

/-- No line feed was read, and what has begun will not be one. -/
def LineFree (r : Reader) : Prop :=
  '\n' ∉ r.done ∧ ∀ b, r.begun = some b → b.BeyondAscii

variable {byte : UInt8} {done : List Char}

theorem start_lineFree (hdone : '\n' ∉ done) (hbyte : byte ≠ Bytes.lf) :
    (start done byte).LineFree := by
  unfold start
  split
  · rename_i c hfirst
    exact ⟨List.not_mem_cons_of_ne_of_not_mem (newline_ne_of_ne_lf hfirst hbyte) hdone,
      by simp⟩
  · rename_i b hfirst
    exact ⟨hdone, by simpa using first_beyondAscii hfirst⟩
  · exact ⟨List.not_mem_cons_of_ne_of_not_mem (by decide) hdone, by simp⟩

theorem LineFree.step {r : Reader} (h : r.LineFree) (hbyte : byte ≠ Bytes.lf) :
    (r.step byte).LineFree := by
  obtain ⟨hdone, hbegun⟩ := h
  unfold Reader.step
  split
  · exact start_lineFree hdone hbyte
  · rename_i b hb
    obtain ⟨hlow, hcode⟩ := hbegun b hb
    split
    · rename_i hrange
      dsimp only
      split
      · refine ⟨List.not_mem_cons_of_ne_of_not_mem (newline_ne_ofNat (by omega)) hdone, by simp⟩
      · refine ⟨hdone, fun next hnext => ?_⟩
        rw [← Option.some.inj hnext]
        exact ⟨Nat.le_refl 0x80, .inl (by dsimp only; omega)⟩
    · exact start_lineFree (List.not_mem_cons_of_ne_of_not_mem (by decide) hdone) hbyte

theorem LineFree.foldl {r : Reader} (h : r.LineFree) {b : Bytes} (hb : Bytes.lf ∉ b) :
    (b.foldl Reader.step r).LineFree := by
  induction b generalizing r with
  | nil => exact h
  | cons x rest ih =>
      rw [List.mem_cons, not_or] at hb
      exact ih (h.step (Ne.symm hb.1)) hb.2

theorem LineFree.finish {r : Reader} (h : r.LineFree) : '\n' ∉ r.finish := by
  unfold Reader.finish
  split <;> rw [List.mem_reverse]
  · exact h.1
  · exact List.not_mem_cons_of_ne_of_not_mem (by decide) h.1

end Reader

/-- No bytes become a line feed but a line feed, however they are read. -/
theorem lf_notMem_encode_lossy {b : Bytes} (h : Bytes.lf ∉ b) : Bytes.lf ∉ encode (lossy b) := by
  have hstart : Reader.LineFree {} := ⟨List.not_mem_nil, by simp⟩
  rw [lf_mem_encode, lossy, String.toList_ofList]
  exact (hstart.foldl h).finish

end RespClient.Utf8
