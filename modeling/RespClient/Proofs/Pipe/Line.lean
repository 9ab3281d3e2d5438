import RespClient.Proofs.Pipe.Arrival
import RespClient.Proofs.Wire.Transport

/-!
# Lines with a limit

The limit of a connection counts what a line says, and its reader counts the line end too. So with
the limit `M` it takes bytes up to the first line feed, but `M + 2` at most, and only what it took
shows whether that was a line. Where it stops depends on the bytes alone: behind a line feed, at
its limit, or where they come to their end. The main result goes through these cases. A line of
`M` bytes is read and a longer one is not, a line feed without a carriage return is refused, and
no more than `M + 2` bytes are gone when anything is.
-/

namespace RespClient

namespace Connection

/-! ## Where reading stops -/

/-- How reading a line stops, what it took and what is left. Where the bytes come to their end
before the limit, nothing is left and the connection ends or is silent. -/
inductive Stops (ends : Prop) (limit : Nat) : Reading → Bytes → Bytes → Prop
  | found {line : Bytes} (rest : Bytes) (hlf : Bytes.lf ∉ line) (hlimit : line.length < limit) :
      Stops ends limit .found (line ++ [Bytes.lf]) rest
  | full {used : Bytes} (rest : Bytes) (hlf : Bytes.lf ∉ used) (hlimit : used.length = limit) :
      Stops ends limit .full used rest
  | ended {used : Bytes} (hlf : Bytes.lf ∉ used) (hlimit : used.length < limit) (h : ends) :
      Stops ends limit .ended used []
  | never {used : Bytes} (hlf : Bytes.lf ∉ used) (hlimit : used.length < limit) (h : ¬ends) :
      Stops ends limit .never used []

variable {ends : Prop} {limit : Nat} {reading : Reading} {used rest : Bytes}

theorem Stops.cons {x : UInt8} (h : Stops ends limit reading used rest) (hx : x ≠ Bytes.lf) :
    Stops ends (limit + 1) reading (x :: used) rest := by
  have hcons : ∀ {bytes : Bytes}, Bytes.lf ∉ bytes → Bytes.lf ∉ x :: bytes := by
    intro bytes hlf
    rw [List.mem_cons, not_or]
    exact ⟨hx.symm, hlf⟩
  cases h with
  | found rest hlf hlimit => exact .found rest (hcons hlf) (Nat.succ_lt_succ hlimit)
  | full rest hlf hlimit => exact .full rest (hcons hlf) (congrArg (· + 1) hlimit)
  | ended hlf hlimit h => exact .ended (hcons hlf) (Nat.succ_lt_succ hlimit) h
  | never hlf hlimit h => exact .never (hcons hlf) (Nat.succ_lt_succ hlimit) h

/-- However reading stops, it took no more than its limit. -/
theorem Stops.length_le (h : Stops ends limit reading used rest) : used.length ≤ limit := by
  cases h with
  | found rest hlf hlimit =>
      rw [List.length_append]
      exact hlimit
  | full rest hlf hlimit => exact Nat.le_of_eq hlimit
  | ended hlf hlimit h => exact Nat.le_of_lt hlimit
  | never hlf hlimit h => exact Nat.le_of_lt hlimit

theorem lf_mem_take {line : Bytes} (hlimit : line.length < limit) :
    Bytes.lf ∈ (line ++ Bytes.lf :: rest).take limit := by
  obtain ⟨n, rfl⟩ := Nat.exists_eq_add_of_lt hlimit
  rw [Nat.add_assoc, List.take_length_add_append, List.take_succ_cons]
  exact List.mem_append_right _ List.mem_cons_self

/-- Reading stops at a line feed that is within the limit. -/
theorem Stops.of_line {line rest' : Bytes} (h : Stops ends limit reading used rest)
    (hb : used ++ rest = line ++ Bytes.lf :: rest') (hlf : Bytes.lf ∉ line)
    (hlimit : line.length < limit) :
    reading = .found ∧ used = line ++ [Bytes.lf] ∧ rest = rest' := by
  have hfeed : Bytes.lf ∈ (used ++ rest).take limit := hb ▸ lf_mem_take hlimit
  cases h with
  | @found line' rest hlf' hlimit' =>
      have hsplit : MemoryLink.splitLine (line' ++ Bytes.lf :: rest) = some (line, rest') :=
        MemoryLink.splitLine_eq_some.mpr ⟨hlf, by rw [← hb]; simp⟩
      rw [MemoryLink.splitLine_eq_some.mpr ⟨hlf', rfl⟩] at hsplit
      cases hsplit
      exact ⟨rfl, rfl, rfl⟩
  | full rest hlf' hlimit' =>
      rw [List.take_left' hlimit'] at hfeed
      exact absurd hfeed hlf'
  | ended hlf' hlimit' h =>
      rw [List.append_nil] at hfeed
      exact absurd (List.mem_of_mem_take hfeed) hlf'
  | never hlf' hlimit' h =>
      rw [List.append_nil] at hfeed
      exact absurd (List.mem_of_mem_take hfeed) hlf'

/-- Where there is none within the limit, reading stops at the limit. -/
theorem Stops.of_long (h : Stops ends limit reading used rest)
    (hlimit : limit ≤ (used ++ rest).length) (hlf : Bytes.lf ∉ (used ++ rest).take limit) :
    reading = .full ∧ used = (used ++ rest).take limit := by
  cases h with
  | found rest hlf' hlimit' =>
      rw [List.append_assoc] at hlf
      exact absurd (lf_mem_take hlimit') hlf
  | full rest hlf' hlimit' => exact ⟨rfl, (List.take_left' hlimit').symm⟩
  | ended hlf' hlimit' h =>
      rw [List.append_nil] at hlimit
      omega
  | never hlf' hlimit' h =>
      rw [List.append_nil] at hlimit
      omega

/-- Where the bytes are at their end before that, reading stops there. -/
theorem Stops.of_short (h : Stops ends limit reading used rest)
    (hlimit : (used ++ rest).length < limit) (hlf : Bytes.lf ∉ used ++ rest) :
    reading = .ended ∧ ends ∨ reading = .never ∧ ¬ends := by
  cases h with
  | found rest hlf' hlimit' => simp at hlf
  | full rest hlf' hlimit' =>
      rw [List.length_append] at hlimit
      omega
  | ended hlf' hlimit' h => exact .inl ⟨rfl, h⟩
  | never hlf' hlimit' h => exact .inr ⟨rfl, h⟩

variable {c c' : Connection} {b : Bytes}

/-- One byte after another is taken, so that reading a line stops somewhere in what is delivered,
and what is left is delivered still. -/
theorem takeLine_stops (h : c.Delivers b) (limit : Nat) (taken : Bytes) :
    ∃ reading used rest c', takeLine none limit taken c = (reading, used.reverse ++ taken, c') ∧
      b = used ++ rest ∧ Stops c.pipe.Ending limit reading used rest ∧ c'.Delivers rest ∧
        c.Continues c' := by
  induction limit generalizing c b taken with
  | zero => exact ⟨.full, [], b, c, rfl, rfl, .full b (by simp) rfl, h, .refl c⟩
  | succ limit ih =>
      obtain ⟨arrival, rest, c₁, hnext, hfronts, hrest, hcontinues⟩ := nextByte_of_delivers h 1
      rw [takeLine, hnext]
      cases hfronts with
      | byte x rest =>
          by_cases hx : x = Bytes.lf
          · subst hx
            have hfound : Stops c.pipe.Ending (limit + 1) .found ([] ++ [Bytes.lf]) rest :=
              .found rest (by simp) (Nat.succ_pos limit)
            exact ⟨.found, [Bytes.lf], rest, c₁, by simp, rfl, hfound, hrest, hcontinues⟩
          · obtain ⟨reading, used, rest', c', htake, rfl, hstops, hrest', hcontinues'⟩ :=
              ih hrest (x :: taken)
            rw [hcontinues.ending] at hstops
            refine ⟨reading, x :: used, rest', c', ?_, rfl, hstops.cons hx, hrest',
              hcontinues.trans hcontinues'⟩
            simp [hx, htake]
      | ended hends => exact ⟨.ended, [], [], c₁, rfl, rfl,
          .ended (by simp) (Nat.succ_pos limit) hends, hrest, hcontinues⟩
      | never hends => exact ⟨.never, [], [], c₁, rfl, rfl,
          .never (by simp) (Nat.succ_pos limit) hends, hrest, hcontinues⟩

/-! ## What becomes of it -/

/-- The bytes that reading a line takes, whatever it makes of them. -/
def lineTaken (c : Connection) : Bytes :=
  (takeLine (c.deadline c.readTimeout) c.lineLimit [] c).2.1.reverse

/-- The connection behind these bytes, before it is dropped for them. -/
def afterLine (c : Connection) : Connection :=
  (takeLine (c.deadline c.readTimeout) c.lineLimit [] c).2.2

/-- What is taken for a line is in front of what is delivered. -/
theorem Delivers.takes (h : c.Delivers b) :
    ∃ reading rest, takeLine (c.deadline c.readTimeout) c.lineLimit [] c =
        (reading, c.lineTaken.reverse, c.afterLine) ∧ b = c.lineTaken ++ rest ∧
      Stops c.pipe.Ending c.lineLimit reading c.lineTaken rest ∧ c.afterLine.Delivers rest ∧
        c.Continues c.afterLine := by
  obtain ⟨reading, used, rest, c', htake, hb, hstops, hrest, hcontinues⟩ :=
    takeLine_stops h c.lineLimit []
  rw [List.append_nil] at htake
  have hused : c.lineTaken = used := by simp [lineTaken, h.deadline_eq, htake]
  have hafter : c.afterLine = c' := by rw [afterLine, h.deadline_eq, htake]
  rw [hused, hafter, h.deadline_eq]
  exact ⟨reading, rest, htake, hb, hstops, hrest, hcontinues⟩

/-- A line that was read is what was taken, but for its end. -/
theorem readLine_ok_taken {line : Bytes} (h : c.readLine = (.ok line, c')) :
    c' = c.afterLine ∧ c.lineTaken = line ++ Bytes.crlf := by
  obtain ⟨-, htake⟩ := readLine_found h
  rw [afterLine, lineTaken, htake]
  simp [Bytes.crlf]

/-- A failure to read a line drops the connection behind what was taken. -/
theorem readLine_error_dropped {e : Failure} (hc : c.connected = true)
    (h : c.readLine = (.error e, c')) : c' = c.afterLine.disconnect := by
  rcases htake : takeLine (c.deadline c.readTimeout) c.lineLimit [] c with ⟨reading, taken, c₁⟩
  simp only [readLine, hc, htake, Bool.not_true, Bool.false_eq_true, if_false] at h
  rw [afterLine, htake]
  cases reading with
  | found =>
      dsimp only at h
      split at h
      · cases h
      · cases h
        rfl
  | never => cases h
  | full | ended | expired =>
      cases h
      rfl

/-- A line that ends properly and is not too long is read as it is. -/
theorem Delivers.readLine_of_line {payload : Bytes}
    (h : c.Delivers (payload ++ (Bytes.crlf ++ rest))) (hlf : Bytes.lf ∉ payload)
    (hlimit : payload.length + 1 < c.lineLimit) :
    c.readLine = (.ok payload, c.afterLine) ∧ c.afterLine.Delivers rest ∧
      c.Continues c.afterLine := by
  obtain ⟨reading, rest', htake, hb, hstops, hrest, hcontinues⟩ := h.takes
  have hline : c.lineTaken ++ rest' = (payload ++ [Bytes.cr]) ++ Bytes.lf :: rest := by
    rw [← hb]
    simp [Bytes.crlf]
  have hlf' : Bytes.lf ∉ payload ++ [Bytes.cr] := by
    rw [List.mem_append, not_or]
    exact ⟨hlf, by decide⟩
  obtain ⟨rfl, htaken, rfl⟩ := hstops.of_line hline hlf' (by simpa using hlimit)
  refine ⟨?_, hrest, hcontinues⟩
  simp [readLine, h.connected, htake, htaken, Bytes.cr]

/-- A line feed without a carriage return before it is refused. -/
theorem Delivers.readLine_of_bare {line : Bytes} (h : c.Delivers (line ++ Bytes.lf :: rest))
    (hlf : Bytes.lf ∉ line) (hbare : line.getLast? ≠ some Bytes.cr)
    (hlimit : line.length < c.lineLimit) :
    c.readLine = (.error (.malformed "line not terminated by CRLF" (line ++ [Bytes.lf]) c.endpoint),
      c.afterLine.disconnect) := by
  obtain ⟨reading, rest', htake, hb, hstops, -, hcontinues⟩ := h.takes
  obtain ⟨rfl, htaken, rfl⟩ := hstops.of_line hb.symm hlf hlimit
  rw [htaken, List.reverse_concat] at htake
  simp only [readLine, h.connected, htake, Bool.not_true, Bool.false_eq_true, if_false]
  split
  · rename_i last front hfront
    rw [← List.head?_reverse, (List.cons.inj hfront).2] at hbare
    exact absurd rfl hbare
  · simp [drop, hcontinues.endpoint]

/-- Bytes without a line feed up to the limit are refused. -/
theorem Delivers.readLine_of_long (h : c.Delivers b) (hlimit : c.lineLimit ≤ b.length)
    (hlf : Bytes.lf ∉ b.take c.lineLimit) :
    c.readLine = (.error (.malformed ("line exceeds " ++ Numeral.natText c.maxLine ++ " bytes")
      ((b.take c.lineLimit).take 64) c.endpoint), c.afterLine.disconnect) := by
  obtain ⟨reading, rest, htake, rfl, hstops, -, hcontinues⟩ := h.takes
  obtain ⟨rfl, htaken⟩ := hstops.of_long hlimit hlf
  rw [← htaken]
  simp [readLine, h.connected, htake, drop, hcontinues.endpoint, hcontinues.maxLine]

/-- The end of the bytes before a line feed and the limit is the end of the connection. -/
theorem Delivers.readLine_of_cut (h : c.Delivers b) (hends : c.pipe.Ending)
    (hlimit : b.length < c.lineLimit) (hlf : Bytes.lf ∉ b) :
    c.readLine = (.error c.closed, c.afterLine.disconnect) := by
  obtain ⟨reading, rest, htake, rfl, hstops, -, hcontinues⟩ := h.takes
  rcases hstops.of_short hlimit hlf with ⟨rfl, -⟩ | ⟨-, hsilent⟩
  · simp [readLine, h.connected, htake, drop, closed, hcontinues.endpoint]
  · exact absurd hends hsilent

/-- Where the peer is silent after such bytes, reading waits for ever. -/
theorem Delivers.readLine_of_silent (h : c.Delivers b) (hsilent : ¬c.pipe.Ending)
    (hlimit : b.length < c.lineLimit) (hlf : Bytes.lf ∉ b) :
    c.readLine = (.stalled, c.afterLine) := by
  obtain ⟨reading, rest, htake, rfl, hstops, -⟩ := h.takes
  rcases hstops.of_short hlimit hlf with ⟨-, hends⟩ | ⟨rfl, -⟩
  · exact absurd hends hsilent
  · simp [readLine, h.connected, htake]

/-! ## Exactness -/

theorem lineLimit_eq (h : c.maxLine < 2 ^ 64 - 2) : c.lineLimit = c.maxLine + 2 := by
  rw [lineLimit]
  omega

/-- Reading a line fails, and with a failure of this kind. -/
def LineFails (c : Connection) (kind : FailureKind) : Prop :=
  ∃ e c', c.readLine = (.error e, c') ∧ e.kind = kind

/-- What reading a line comes to where the bytes `b` are delivered. -/
structure ReadsExactly (c : Connection) (b : Bytes) : Prop where
  /-- A line is read exactly where it is in front, is not too long and ends properly. -/
  line (l : Bytes) : (∃ c', c.readLine = (.ok l, c')) ↔
    Bytes.lf ∉ l ∧ l.length ≤ c.maxLine ∧ ∃ rest, b = l ++ (Bytes.crlf ++ rest)
  /-- Then it and its end are taken, and all that is behind them is delivered still. -/
  taken {l : Bytes} {c' : Connection} (h : c.readLine = (.ok l, c')) :
    c' = c.afterLine ∧ c.lineTaken = l ++ Bytes.crlf ∧
      ∃ rest, b = l ++ (Bytes.crlf ++ rest) ∧ c'.Delivers rest ∧ c.Continues c'
  /-- A first line feed within the limit has no carriage return before it. -/
  bare {l rest : Bytes} (hb : b = l ++ Bytes.lf :: rest) (hlf : Bytes.lf ∉ l)
    (hbare : l.getLast? ≠ some Bytes.cr) (hlimit : (l ++ [Bytes.lf]).length ≤ c.maxLine + 2) :
    c.LineFails .protocol
  /-- There is no line feed up to the limit. -/
  long (hlimit : c.maxLine + 2 ≤ b.length) (hlf : Bytes.lf ∉ b.take (c.maxLine + 2)) :
    c.LineFails .protocol
  /-- The bytes end before the limit and have no line feed. -/
  cut (hends : c.pipe.Ending) (hlimit : b.length < c.maxLine + 2) (hlf : Bytes.lf ∉ b) :
    c.LineFails .connection
  /-- They stop there too, but they do not end. -/
  silent (hsilent : ¬c.pipe.Ending) (hlimit : b.length < c.maxLine + 2) (hlf : Bytes.lf ∉ b) :
    c.readLine = (.stalled, c.afterLine)
  /-- Every failure drops the connection, and no more is taken then than the longest line. -/
  dropped {e : Failure} {c' : Connection} (h : c.readLine = (.error e, c')) :
    c' = c.afterLine.disconnect ∧ c'.connected = false ∧ c.lineTaken.length ≤ c.maxLine + 2 ∧
      b = c.lineTaken ++ c.afterLine.upcoming

/-- **Reading a line is exact at its limit.** However the bytes arrive, they alone decide whether
a line is read, how much of them is taken, and what kind of failure there is else. -/
theorem readLine_exact (h : c.Delivers b) (hmax : c.maxLine < 2 ^ 64 - 2) : c.ReadsExactly b := by
  have hlimit := lineLimit_eq hmax
  obtain ⟨reading, rest, -, hb, hstops, hrest, hcontinues⟩ := h.takes
  have htaken : c.lineTaken.length ≤ c.maxLine + 2 := hlimit ▸ hstops.length_le
  have hok : ∀ {l c'}, c.readLine = (.ok l, c') → c' = c.afterLine ∧
      c.lineTaken = l ++ Bytes.crlf ∧ b = l ++ (Bytes.crlf ++ rest) := by
    intro l c' hread
    obtain ⟨hc', hl⟩ := readLine_ok_taken hread
    refine ⟨hc', hl, ?_⟩
    rw [hb, hl, List.append_assoc]
  refine ⟨fun l => ⟨?_, ?_⟩, ?_, ?_, ?_, ?_, ?_, ?_⟩
  · rintro ⟨c', hread⟩
    obtain ⟨-, hl, hfront⟩ := hok hread
    obtain ⟨-, hlf, -⟩ := readLine_eq_ok hread
    refine ⟨hlf, ?_, rest, hfront⟩
    rw [hl, List.length_append, show Bytes.crlf.length = 2 from rfl] at htaken
    omega
  · rintro ⟨hlf, hlength, rest', rfl⟩
    exact ⟨_, (h.readLine_of_line hlf (by omega)).1⟩
  · intro l c' hread
    obtain ⟨rfl, hl, hfront⟩ := hok hread
    exact ⟨rfl, hl, rest, hfront, hrest, hcontinues⟩
  · intro l rest' hfeed hlf hbare hlength
    rw [List.length_append, List.length_singleton] at hlength
    subst hfeed
    exact ⟨_, _, h.readLine_of_bare hlf hbare (by omega), rfl⟩
  · intro hlength hlf
    rw [← hlimit] at hlength hlf
    exact ⟨_, _, h.readLine_of_long hlength hlf, rfl⟩
  · intro hends hlength hlf
    exact ⟨_, _, h.readLine_of_cut hends (by omega) hlf, rfl⟩
  · intro hsilent hlength hlf
    exact h.readLine_of_silent hsilent (by omega) hlf
  · intro e c' hread
    obtain rfl := readLine_error_dropped h.connected hread
    exact ⟨rfl, rfl, htaken, by rw [hrest.upcoming, hb]⟩

/-- `+OK!` and `+TOOLONG`. -/
def twoLines : Bytes :=
  [43, 79, 75, 33, 13, 10, 43, 84, 79, 79, 76, 79, 78, 71, 13, 10]

/-- The first line is as long as it may be, the second is too long. They come through a pipe that
holds three bytes, and nothing comes after them. -/
theorem readLine_exact_atLimit :
    ∃ c', ({ maxLine := 4, pipe := { capacity := 3, plan := [.send twoLines] } } :
        Connection).readLine = (.ok [43, 79, 75, 33], c') ∧ c'.LineFails .protocol := by
  have hdelivers : ({ maxLine := 4, pipe := { capacity := 3, plan := [.send twoLines] } } :
      Connection).Delivers twoLines := ⟨rfl, rfl, rfl, fun _ => by decide⟩
  have hfirst := readLine_exact hdelivers (by decide)
  obtain ⟨c', hread⟩ := (hfirst.line [43, 79, 75, 33]).mpr ⟨by decide, by decide, _, rfl⟩
  obtain ⟨-, -, rest, hrest, hdelivers', hcontinues⟩ := hfirst.taken hread
  have hmax : c'.maxLine = 4 := hcontinues.maxLine
  have hsecond := readLine_exact hdelivers' (by rw [hmax]; decide)
  have hrest : [43, 79, 75, 33] ++ (Bytes.crlf ++ [43, 84, 79, 79, 76, 79, 78, 71, 13, 10]) =
    [43, 79, 75, 33] ++ (Bytes.crlf ++ rest) := hrest
  obtain rfl := List.append_cancel_left (List.append_cancel_left hrest)
  exact ⟨c', hread, hsecond.long (by rw [hmax]; decide) (by rw [hmax]; decide)⟩

end Connection

end RespClient
