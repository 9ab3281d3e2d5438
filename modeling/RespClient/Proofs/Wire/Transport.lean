import RespClient.Proofs.Action
import RespClient.Wire.MemoryLink
import Mathlib.Data.List.TakeDrop
import Mathlib.Data.List.TakeWhile

/-!
# Laws of transports

A transport has a string of bytes ahead of it: everything that can still be read.
A read that succeeds takes its bytes off the front of that string and nothing else,
and neither a read nor a write succeeds once the transport is given up. Behind it is
everything that was ever written: a write adds its bytes there, or the first of them
if it breaks off, and nothing else does. A reader that is right on every lawful
transport is right on a link in memory and on a connection alike.
-/

namespace RespClient

/-- What every byte link keeps to. -/
class Transport.Lawful (τ : Type) [Transport τ] where
  /-- All that can still be read, in order. -/
  upcoming : τ → Bytes
  /-- All that was ever written, in order. -/
  output : τ → Bytes
  pending_eq (t : τ) : pending t = (upcoming t).length
  isConnected_disconnect (t : τ) : isConnected (disconnect t) = false
  readLine_of_gone {t : τ} : isConnected t = false → ∃ e, readLine t = (.error e, t)
  write_of_gone {t : τ} (bytes : Bytes) :
    isConnected t = false → ∃ e, write bytes t = (.error e, t)
  readLine_ok {t t' : τ} {line : Bytes} : readLine t = (.ok line, t') →
    isConnected t' = true ∧ Bytes.lf ∉ line ∧ upcoming t = line ++ (Bytes.crlf ++ upcoming t')
  readBytes_ok {t t' : τ} {n : Nat} {data : Bytes} : readBytes n t = (.ok data, t') →
    isConnected t' = true ∧ data.length = n ∧ upcoming t = data ++ upcoming t'
  write_ok {t t' : τ} {bytes : Bytes} : write bytes t = (.ok (), t') →
    isConnected t' = true ∧ upcoming t' = upcoming t
  write_error {t t' : τ} {bytes : Bytes} {e : Failure} : write bytes t = (.error e, t') →
    isConnected t' = false
  output_write {t t' : τ} {bytes : Bytes} {r : Outcome Unit} : write bytes t = (r, t') →
    bytes ≠ [] → ∃ part rest, bytes = part ++ rest ∧ output t' = output t ++ part ∧
      (r = .ok () ↔ rest = [])
  output_readLine (t : τ) : output (readLine t).2 = output t
  output_readBytes (n : Nat) (t : τ) : output (readBytes n t).2 = output t
  output_disconnect (t : τ) : output (disconnect t) = output t

/-! ## Links in memory -/

namespace MemoryLink

theorem splitLine_eq_some {input line rest : Bytes} :
    splitLine input = some (line, rest) ↔ Bytes.lf ∉ line ∧ input = line ++ Bytes.lf :: rest := by
  unfold splitLine
  rw [List.span_eq_takeWhile_dropWhile]
  constructor
  · intro h
    split at h
    · cases h
    · rename_i taken b tail heq
      cases h
      obtain ⟨htake, hdrop⟩ := Prod.mk.inj heq
      have hb : (b != Bytes.lf) = false := by
        have := List.head?_dropWhile_not (· != Bytes.lf) input
        simpa [hdrop] using this
      have hlf : b = Bytes.lf := by simpa using hb
      refine ⟨?_, ?_⟩
      · rw [← htake]
        intro hmem
        have := List.mem_takeWhile_imp hmem
        simp at this
      · rw [← hlf, ← hdrop, ← htake, List.takeWhile_append_dropWhile]
  · rintro ⟨hlf, rfl⟩
    have hall : ∀ b ∈ line, (b != Bytes.lf) = true := by
      intro b hb
      rw [bne_iff_ne]
      rintro rfl
      exact hlf hb
    rw [List.takeWhile_append_of_pos hall, List.dropWhile_append_of_pos hall]
    simp

theorem chomp?_eq_some {line payload : Bytes} :
    chomp? line = some payload ↔ line = payload ++ [Bytes.cr] := by
  unfold chomp?
  constructor
  · intro h
    split at h
    · rename_i hlast
      cases h
      obtain ⟨init, rfl⟩ := List.getLast?_eq_some_iff.mp hlast
      simp
    · cases h
  · rintro rfl
    simp

theorem splitLine_eq_none {input : Bytes} : splitLine input = none ↔ Bytes.lf ∉ input := by
  constructor
  · intro h hmem
    obtain ⟨line, rest, rfl, hlf⟩ := List.eq_append_cons_of_mem hmem
    rw [splitLine_eq_some.mpr ⟨hlf, rfl⟩] at h
    cases h
  · intro hlf
    rcases hsplit : splitLine input with _ | ⟨line, rest⟩
    · rfl
    · obtain ⟨-, rfl⟩ := splitLine_eq_some.mp hsplit
      exact absurd (by simp) hlf

/-- What reading a line comes to where there is one. -/
theorem readLine_of_split {l : MemoryLink} {line rest : Bytes} (hc : l.connected = true)
    (hsplit : splitLine l.input = some (line, rest)) :
    readLine l = (match chomp? line with
      | some payload => .ok payload
      | none => .error (.malformed "line not terminated by CRLF" (line ++ [Bytes.lf]) l.endpoint),
      { l with input := rest }) := by
  rw [readLine, hc, hsplit]
  show (match chomp? line with | some _ => _ | none => _) = _
  cases chomp? line with
  | some payload => rfl
  | none => rfl

theorem readLine_of_unended {l : MemoryLink} (hc : l.connected = true) (hlf : Bytes.lf ∉ l.input) :
    readLine l = (l.exhausted, l) := by
  rw [readLine, hc, splitLine_eq_none.mpr hlf]
  rfl

theorem readBytes_of_short {l : MemoryLink} {n : Nat} (hc : l.connected = true)
    (hshort : l.input.length < n) : readBytes n l = (l.exhausted, l) := by
  have htaken : (l.input.take n).length < n := by
    rw [List.length_take]
    omega
  rw [readBytes, hc]
  exact if_pos htaken

/-- Reading a line that ends properly takes exactly that line. -/
theorem readLine_of_line {l : MemoryLink} {payload rest : Bytes} (hc : l.connected = true)
    (hlf : Bytes.lf ∉ payload) (hin : l.input = payload ++ (Bytes.crlf ++ rest)) :
    readLine l = (.ok payload, { l with input := rest }) := by
  have hsplit : splitLine l.input = some (payload ++ [Bytes.cr], rest) := by
    rw [splitLine_eq_some, hin]
    refine ⟨?_, by simp [Bytes.crlf]⟩
    rw [List.mem_append, not_or]
    exact ⟨hlf, by decide⟩
  have hchomp : chomp? (payload ++ [Bytes.cr]) = some payload := chomp?_eq_some.mpr rfl
  simp [readLine, hc, hsplit, hchomp]

theorem readLine_eq_ok {l l' : MemoryLink} {payload : Bytes}
    (h : readLine l = (.ok payload, l')) :
    l.connected = true ∧ Bytes.lf ∉ payload ∧ l.input = payload ++ (Bytes.crlf ++ l'.input) ∧
      l' = { l with input := l'.input } := by
  unfold readLine at h
  split at h
  · cases h
  · rename_i hc
    have hc : l.connected = true := by simpa using hc
    split at h
    · rw [exhausted] at h
      split at h <;> cases h
    · rename_i line rest hsplit
      obtain ⟨hlf, hin⟩ := splitLine_eq_some.mp hsplit
      dsimp only at h
      split at h
      · rename_i p hchomp
        cases h
        obtain rfl := chomp?_eq_some.mp hchomp
        refine ⟨hc, fun hmem => hlf (List.mem_append_left _ hmem), ?_, rfl⟩
        simpa [Bytes.crlf] using hin
      · cases h

/-- Reading bytes that are there takes exactly them. -/
theorem readBytes_of_append {l : MemoryLink} {n : Nat} {data rest : Bytes}
    (hc : l.connected = true) (hn : data.length = n) (hin : l.input = data ++ rest) :
    readBytes n l = (.ok data, { l with input := rest }) := by
  have htake : l.input.take n = data := by rw [hin, ← hn, List.take_left]
  have hdrop : l.input.drop n = rest := by rw [hin, ← hn, List.drop_left]
  simp [readBytes, hc, htake, hdrop, hn]

theorem readBytes_eq_ok {l l' : MemoryLink} {n : Nat} {data : Bytes}
    (h : readBytes n l = (.ok data, l')) :
    l.connected = true ∧ data.length = n ∧ l.input = data ++ l'.input ∧
      l' = { l with input := l'.input } := by
  unfold readBytes at h
  split at h
  · cases h
  · rename_i hc
    dsimp only at h
    split at h
    · rw [exhausted] at h
      split at h <;> cases h
    · rename_i hlen
      cases h
      refine ⟨by simpa using hc, ?_, (List.take_append_drop n l.input).symm, rfl⟩
      rw [List.length_take] at hlen ⊢
      omega

/-- Reading writes nothing. -/
theorem written_readLine (l : MemoryLink) : (readLine l).2.written = l.written := by
  unfold readLine
  split
  · rfl
  · split
    · rfl
    · dsimp only
      split <;> rfl

theorem written_readBytes (n : Nat) (l : MemoryLink) : (readBytes n l).2.written = l.written := by
  unfold readBytes
  split
  · rfl
  · dsimp only
    split <;> rfl

instance : Transport.Lawful MemoryLink where
  upcoming := input
  output := written
  pending_eq _ := rfl
  isConnected_disconnect _ := rfl
  readLine_of_gone {l} h := by
    have h : l.connected = false := h
    exact ⟨l.disconnected, by simp [Transport.readLine, readLine, h]⟩
  write_of_gone {l} bytes h := by
    have h : l.connected = false := h
    exact ⟨l.disconnected, by simp [Transport.write, write, h]⟩
  readLine_ok h := by
    obtain ⟨hc, hlf, hin, hl⟩ := readLine_eq_ok h
    refine ⟨?_, hlf, hin⟩
    rw [hl]
    exact hc
  readBytes_ok h := by
    obtain ⟨hc, hn, hin, hl⟩ := readBytes_eq_ok h
    refine ⟨?_, hn, hin⟩
    rw [hl]
    exact hc
  write_ok {l l' bytes} h := by
    have h : (if l.connected then (.ok (), { l with written := l.written ++ bytes })
      else (.error l.disconnected, l)) = (Outcome.ok (), l') := h
    split at h
    · rename_i hc
      cases h
      exact ⟨hc, rfl⟩
    · cases h
  write_error {l l' bytes e} h := by
    have h : (if l.connected then (.ok (), { l with written := l.written ++ bytes })
      else (.error l.disconnected, l)) = (Outcome.error e, l') := h
    split at h
    · cases h
    · rename_i hc
      cases h
      show l.connected = false
      simpa using hc
  output_write {l l' bytes r} h hbytes := by
    have h : (if l.connected then (.ok (), { l with written := l.written ++ bytes })
      else (.error l.disconnected, l)) = (r, l') := h
    split at h
    · cases h
      exact ⟨bytes, [], (List.append_nil _).symm, rfl, by simp⟩
    · cases h
      exact ⟨[], bytes, rfl, (List.append_nil _).symm, by simp [hbytes]⟩
  output_readLine := written_readLine
  output_readBytes := written_readBytes
  output_disconnect _ := rfl

end MemoryLink

end RespClient
