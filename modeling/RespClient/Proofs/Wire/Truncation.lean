import RespClient.Proofs.Wire.Congruence
import RespClient.Proofs.Wire.Depth

/-!
# Replies that are cut short

What a decoder does on a link in memory does not depend on the bytes behind those it looks at.
It may come to the end of the input, and then it reports just that; else it does the same
whatever comes behind. So a reply is read alike before any other bytes, and a reply that is cut
short is taken for the loss of the connection and never for anything else.
-/

namespace RespClient

namespace Decoder

open Transport RespClient.Action

variable {α β : Type} {d : Decoder}

/-- The action changes the input of a link only. It comes to the end of the input, or it does
the same whatever comes behind. -/
structure Steady (x : Action MemoryLink α) : Prop where
  keeps (l : MemoryLink) : ∃ input, (x l).2 = { l with input }
  run (l : MemoryLink) (more : Bytes) :
    (x l).1 = l.exhausted ∨ x (l.feed more) = ((x l).1, (x l).2.feed more)

namespace Steady

theorem give (a : α) : Steady (Action.give a : Action MemoryLink α) where
  keeps l := ⟨l.input, rfl⟩
  run _ _ := .inr rfl

theorem stall : Steady (Action.stall : Action MemoryLink α) where
  keeps l := ⟨l.input, rfl⟩
  run _ _ := .inr rfl

theorem refuse (flaw : Flaw) (payload : Bytes) :
    Steady (refuse flaw payload : Action MemoryLink α) where
  keeps l := ⟨l.input, rfl⟩
  run _ _ := .inr rfl

/-- What comes to the end of the input gives no value. -/
theorem exhausted_eq_stopped (l : MemoryLink) :
    ∃ stop, ∀ γ : Type, (l.exhausted : Outcome γ) = stopped stop := by
  unfold MemoryLink.exhausted
  cases l.atEnd with
  | closed => exact ⟨some _, fun _ => rfl⟩
  | silent => exact ⟨none, fun _ => rfl⟩

theorem bind {x : Action MemoryLink α} {f : α → Action MemoryLink β} (hx : Steady x)
    (hf : ∀ a, Steady (f a)) : Steady (x >>= f) where
  keeps l := by
    obtain ⟨input, hl'⟩ := hx.keeps l
    rcases hrun : x l with ⟨out, l'⟩
    rw [hrun] at hl'
    obtain rfl : l' = { l with input } := hl'
    cases out with
    | ok a =>
        obtain ⟨input', hend⟩ := (hf a).keeps { l with input }
        exact ⟨input', by rw [bind_of_ok hrun, hend]⟩
    | error e => exact ⟨input, by rw [bind_of_error hrun]⟩
    | stalled => exact ⟨input, by rw [bind_of_stalled hrun]⟩
  run l more := by
    obtain ⟨input, hl'⟩ := hx.keeps l
    rcases hrun : x l with ⟨out, l'⟩
    rw [hrun] at hl'
    obtain rfl : l' = { l with input } := hl'
    rcases hx.run l more with hend | hsame
    · -- the end of the input is the end of the sequence
      obtain ⟨stop, hstop⟩ := exhausted_eq_stopped l
      rw [hrun] at hend
      obtain rfl : out = stopped stop := hend.trans (hstop α)
      exact .inl (by rw [bind_of_stopped hrun, hstop β])
    · rw [hrun] at hsame
      cases out with
      | ok a =>
          rw [bind_of_ok hrun, bind_of_ok hsame]
          exact (hf a).run { l with input } more
      | error e => exact .inr (by rw [bind_of_error hrun, bind_of_error hsame])
      | stalled => exact .inr (by rw [bind_of_stalled hrun, bind_of_stalled hsame])

theorem readLine : Steady (Transport.readLine : Action MemoryLink Bytes) where
  keeps l := by
    show ∃ input, (MemoryLink.readLine l).2 = { l with input }
    unfold MemoryLink.readLine
    split
    · exact ⟨l.input, rfl⟩
    · split
      · exact ⟨l.input, rfl⟩
      · dsimp only
        split
        · exact ⟨_, rfl⟩
        · exact ⟨_, rfl⟩
  run l more := by
    show (MemoryLink.readLine l).1 = l.exhausted ∨ MemoryLink.readLine (l.feed more) =
      ((MemoryLink.readLine l).1, (MemoryLink.readLine l).2.feed more)
    by_cases hc : l.connected = true
    · rcases hsplit : MemoryLink.splitLine l.input with _ | ⟨line, rest⟩
      · rw [MemoryLink.readLine_of_unended hc (MemoryLink.splitLine_eq_none.mp hsplit)]
        exact .inl rfl
      · -- the first line ends at the same place
        obtain ⟨hlf, hin⟩ := MemoryLink.splitLine_eq_some.mp hsplit
        have hmore : MemoryLink.splitLine (l.feed more).input = some (line, rest ++ more) := by
          rw [MemoryLink.splitLine_eq_some]
          exact ⟨hlf, by simp [MemoryLink.feed, hin]⟩
        rw [MemoryLink.readLine_of_split hc hsplit,
          MemoryLink.readLine_of_split (l := l.feed more) hc hmore]
        exact .inr rfl
    · have hc : l.connected = false := by simpa using hc
      exact .inr (by simp [MemoryLink.readLine, MemoryLink.disconnected, MemoryLink.feed, hc])

theorem readBytes (n : Nat) : Steady (Transport.readBytes n : Action MemoryLink Bytes) where
  keeps l := by
    show ∃ input, (MemoryLink.readBytes n l).2 = { l with input }
    unfold MemoryLink.readBytes
    split
    · exact ⟨l.input, rfl⟩
    · dsimp only
      split
      · exact ⟨l.input, rfl⟩
      · exact ⟨_, rfl⟩
  run l more := by
    show (MemoryLink.readBytes n l).1 = l.exhausted ∨ MemoryLink.readBytes n (l.feed more) =
      ((MemoryLink.readBytes n l).1, (MemoryLink.readBytes n l).2.feed more)
    by_cases hc : l.connected = true
    · by_cases hshort : l.input.length < n
      · rw [MemoryLink.readBytes_of_short hc hshort]
        exact .inl rfl
      · have hlen : n ≤ l.input.length := Nat.not_lt.mp hshort
        refine .inr ?_
        have hfed : MemoryLink.readBytes n (l.feed more) =
            (.ok (l.input.take n), { l with input := l.input.drop n ++ more }) := by
          apply MemoryLink.readBytes_of_append (l := l.feed more) hc (List.length_take_of_le hlen)
          rw [← List.append_assoc, List.take_append_drop]
          rfl
        have hread : MemoryLink.readBytes n l =
            (.ok (l.input.take n), { l with input := l.input.drop n }) :=
          MemoryLink.readBytes_of_append hc (List.length_take_of_le hlen)
            (List.take_append_drop n l.input).symm
        rw [hfed, hread]
        rfl
    · have hc : l.connected = false := by simpa using hc
      exact .inr (by simp [MemoryLink.readBytes, MemoryLink.disconnected, MemoryLink.feed, hc])

theorem congruence :
    Congruence fun α (x : Action MemoryLink α) (_ : Action MemoryLink α) => Steady x where
  give := give
  bind hx hf := hx.bind hf
  stall := stall
  refuse := refuse
  readLine := readLine
  readBytes {n} _ := readBytes n

end Steady

/-- Reading an element does not depend on what comes behind it. -/
theorem readElement_steady (d : Decoder) : Steady (d.readElement : Action MemoryLink Frame) := by
  have hframe : ∀ depth, Steady (d.readFrame depth : Action MemoryLink Frame) := fun depth =>
    Steady.congruence.frame d depth
  constructor
  · exact fun l => (hframe (pending l)).keeps l
  · intro l more
    -- more bytes ahead allow for more depth, which the fewer do not use up
    have hpending : pending l ≤ pending (l.feed more) := by
      show l.input.length ≤ (l.input ++ more).length
      rw [List.length_append]
      exact Nat.le_add_right _ _
    rw [readElement_eq_readFrame hpending]
    exact (hframe (pending (l.feed more))).run l more

/-- A reply that was decoded is decoded alike whatever comes behind it. -/
theorem decode_feed {l l' : MemoryLink} {f : Frame} (h : d.decode l = (.ok f, l')) (more : Bytes) :
    d.decode (l.feed more) = (.ok f, l'.feed more) := by
  have hread : d.readElement l = (.ok f, l') := orDisconnect_eq_ok.mp h
  rcases d.readElement_steady.run l more with hend | hsame
  · obtain ⟨stop, hstop⟩ := Steady.exhausted_eq_stopped l
    rw [hread, hstop] at hend
    exact absurd hend.symm stopped_ne_ok
  · rw [hread] at hsame
    exact orDisconnect_of_ok hsame

/-- What the end of the input makes of decoding. -/
theorem decode_of_exhausted {l : MemoryLink} (hclosed : l.atEnd = .closed)
    (h : (d.readElement l).1 = l.exhausted) :
    ∃ l', d.decode l = (.error (.connection l.endpoint "unexpected end of input"), l') ∧
      l'.connected = false := by
  rw [MemoryLink.exhausted, hclosed] at h
  exact ⟨_, orDisconnect_of_error (Prod.ext h rfl), rfl⟩

/-- **A reply that is cut short is a lost connection.** If a link holds exactly one reply, then
a link that holds less of it, be it nothing, fails to decode it because the connection is lost,
and a link that holds more gives the same frame and keeps what comes behind. -/
theorem decode_truncated {l : MemoryLink} {w : Bytes} {f : Frame} (hclosed : l.atEnd = .closed)
    (h : d.decode { l with input := w } = (.ok f, { l with input := [] })) :
    (∀ p, p <+: w → p ≠ w → ∃ e l', d.decode { l with input := p } = (.error e, l') ∧
      e.kind = .connection ∧ l'.connected = false) ∧
    ∀ r, d.decode { l with input := w ++ r } = (.ok f, { l with input := r }) := by
  constructor
  · rintro p ⟨s, rfl⟩ hproper
    rcases d.readElement_steady.run { l with input := p } s with hend | hsame
    · obtain ⟨l', hdecode, hgone⟩ := decode_of_exhausted (l := { l with input := p }) hclosed hend
      exact ⟨_, l', hdecode, rfl, hgone⟩
    · -- what is behind `p` would be left over
      have hread := orDisconnect_eq_ok.mp h
      rw [show ({ l with input := p ++ s } : MemoryLink) = ({ l with input := p }).feed s from rfl,
        hsame] at hread
      have hleft := congrArg MemoryLink.input (Prod.mk.inj hread).2
      have hs : s = [] := (List.append_eq_nil_iff.mp hleft).2
      exact absurd (by rw [hs, List.append_nil]) hproper
  · exact fun r => decode_feed h r

/-- `%1 $5 :1↵+ $-1`, which holds what looks like replies. -/
def lookalike : Bytes :=
  [37, 49, 13, 10, 36, 53, 13, 10, 58, 49, 13, 10, 43, 13, 10, 36, 45, 49, 13, 10]

/-- It is cut between the two bytes of a line end inside its key, and it is followed by a bare
line feed. -/
theorem decode_truncated_lookalike :
    (⟨.resp3, 80⟩ : Decoder).decode ({ input := lookalike } : MemoryLink) =
        (.ok (.map [(.bulk [58, 49, 13, 10, 43], .null)]), { input := [] }) ∧
      (∃ e l', (⟨.resp3, 80⟩ : Decoder).decode ({ input := lookalike.take 11 } : MemoryLink) =
        (.error e, l') ∧ e.kind = .connection ∧ l'.connected = false) ∧
      (⟨.resp3, 80⟩ : Decoder).decode ({ input := lookalike ++ [10] } : MemoryLink) =
        (.ok (.map [(.bulk [58, 49, 13, 10, 43], .null)]), { input := [10] }) := by
  have hwhole : (⟨.resp3, 80⟩ : Decoder).decode ({ input := lookalike } : MemoryLink) =
      (.ok (.map [(.bulk [58, 49, 13, 10, 43], .null)]), { input := [] }) := by rfl
  obtain ⟨hless, hmore⟩ := decode_truncated (l := { input := [] }) rfl hwhole
  exact ⟨hwhole, hless _ (List.take_prefix 11 lookalike) (by decide), hmore [10]⟩

end Decoder

end RespClient
