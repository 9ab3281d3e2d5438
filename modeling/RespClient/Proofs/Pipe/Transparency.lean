import RespClient.Proofs.Pipe.Delivery
import RespClient.Proofs.Wire.Gauge
import RespClient.Proofs.Wire.Replies

/-!
# Pipes are transparent

A connection that carries a byte string is compared with a link in memory that holds it. The
two read lines, count bytes and meet the end of the string in their own ways, one byte by byte
through a pipe that holds little and gets the string in pieces, the other all at once. The main
result is that a decoder cannot tell them apart: both give the same replies and then fail alike.
Only a header line that is too long for the connection could betray it, and a blob for which no
block of memory is large enough: the connection sets the block aside and the program stops there,
where the link finds that the bytes are not all there and reports the loss of the connection.
-/

namespace RespClient

open Transport RespClient.Action

namespace Connection

/-- A connection carries what a link in memory holds. The bound on its length is that of memory:
every byte string is shorter. -/
structure Beside (limit : Nat) (c : Connection) (g : GaugedLink) : Prop where
  carries : c.Carries g.link.input
  maxLine : c.maxLine = limit
  connected : g.link.connected = true
  closed : g.link.atEnd = .closed
  memory : g.link.input.length < 2 ^ 63

/-- The program stopped over a count of bytes that no block of memory can hold. No greater count
than `most` was asked for. -/
def Overran (most : Nat) (c : Connection) : Prop :=
  ∃ n, c.overrun = some n ∧ maxBlock < n ∧ n ≤ most

/-- Two outcomes are alike: the same value and states that are still beside each other, or
failures of one kind. Where the connection stops the program, the link reports the loss of the
connection. -/
inductive Matches {α : Type} (limit most : Nat) :
    Outcome α × Connection → Outcome α × GaugedLink → Prop
  | ok (a : α) {c : Connection} {g : GaugedLink} (h : Beside limit c g) :
      Matches limit most (.ok a, c) (.ok a, g)
  | error {e e' : Failure} (c : Connection) (g : GaugedLink) (h : e.kind = e'.kind) :
      Matches limit most (.error e, c) (.error e', g)
  | overrun {e : Failure} {c : Connection} (g : GaugedLink) (h : c.Overran most)
      (he : e.kind = .connection) : Matches limit most (.stalled, c) (.error e, g)
  | stalled (c : Connection) (g : GaugedLink) : Matches limit most (.stalled, c) (.stalled, g)

/-- Two actions run alike on a connection and on the link beside it, if the second one asks for
no line that is too long. -/
structure Alike {α : Type} (limit most : Nat) (x : Action Connection α)
    (y : Action GaugedLink α) : Prop where
  grows (g : GaugedLink) : g.longest ≤ (y g).2.longest
  run {c : Connection} {g : GaugedLink} (h : Beside limit c g) (hlines : (y g).2.longest ≤ limit) :
    Matches limit most (x c) (y g)

variable {α β : Type} {limit most : Nat} {c : Connection} {g : GaugedLink}

/-- A connection and a link that have both read up to the same place. -/
theorem Beside.behind {c' : Connection} {rest : Bytes} (h : Beside limit c g)
    (hcarries : c'.Carries rest) (hmax : c'.maxLine = c.maxLine)
    (hrest : rest.length ≤ g.link.input.length) (longest : Nat) :
    Beside limit c' { link := { g.link with input := rest }, longest } where
  carries := hcarries
  maxLine := hmax.trans h.maxLine
  connected := h.connected
  closed := h.closed
  memory := Nat.lt_of_le_of_lt hrest h.memory

/-- A line of the link that is not too long for the connection, with its line end. -/
theorem Beside.lt_lineLimit {n : Nat} (h : Beside limit c g)
    (hlines : (MemoryLink.frontLine g.link.input).length ≤ limit)
    (hn : n ≤ (MemoryLink.frontLine g.link.input).length + 1) (hinput : n ≤ g.link.input.length) :
    n < c.lineLimit := by
  have := h.memory
  rw [lineLimit, h.maxLine]
  omega

theorem Beside.exhausted_eq (h : Beside limit c g) :
    (g.link.exhausted : Outcome α) =
      .error (.connection g.link.endpoint "unexpected end of input") := by
  rw [MemoryLink.exhausted, h.closed]

namespace Alike

theorem give (a : α) : Alike limit most (Action.give a) (Action.give a) where
  grows g := Nat.le_refl g.longest
  run h _ := .ok a h

theorem stall : Alike limit most (Action.stall : Action Connection α) Action.stall where
  grows g := Nat.le_refl g.longest
  run {c g} _ _ := .stalled c g

theorem refuse (flaw : Flaw) (payload : Bytes) :
    Alike limit most (Decoder.refuse flaw payload : Action Connection α)
      (Decoder.refuse flaw payload) where
  grows g := Nat.le_refl g.longest
  run {c g} _ _ := .error c g rfl

theorem bind {x : Action Connection α} {y : Action GaugedLink α} {f : α → Action Connection β}
    {f' : α → Action GaugedLink β} (hx : Alike limit most x y) (hf : ∀ a, Alike limit most (f a) (f' a)) :
    Alike limit most (x >>= f) (y >>= f') where
  grows g := by
    have hgrows := hx.grows g
    rcases hy : y g with ⟨out, g'⟩
    rw [hy] at hgrows
    cases out with
    | ok a =>
        rw [bind_of_ok hy]
        exact Nat.le_trans hgrows ((hf a).grows g')
    | error e => rwa [bind_of_error hy]
    | stalled => rwa [bind_of_stalled hy]
  run {c g} h hlines := by
    rcases hy : y g with ⟨out, g'⟩
    rcases hc : x c with ⟨out', c'⟩
    have hmatches : g'.longest ≤ limit → Matches limit most (out', c') (out, g') := by
      intro hlines
      have := hx.run h (by rwa [hy])
      rwa [hc, hy] at this
    cases out with
    | ok a =>
        -- no line behind is too long, so none in front is
        rw [bind_of_ok hy] at hlines ⊢
        cases hmatches (Nat.le_trans ((hf a).grows g') hlines) with
        | ok _ h' =>
            rw [bind_of_ok hc]
            exact (hf a).run h' hlines
    | error e =>
        rw [bind_of_error hy] at hlines ⊢
        cases hmatches hlines with
        | error _ _ hkind =>
            rw [bind_of_error hc]
            exact .error c' g' hkind
        | overrun _ hover he =>
            rw [bind_of_stalled hc]
            exact .overrun g' hover he
    | stalled =>
        rw [bind_of_stalled hy] at hlines ⊢
        cases hmatches hlines with
        | stalled =>
            rw [bind_of_stalled hc]
            exact .stalled c' g'

theorem readLine : Alike limit most (Transport.readLine : Action Connection Bytes)
    Transport.readLine where
  grows g := Nat.le_max_left _ _
  run {c g} h hlines := by
    have hfront : (MemoryLink.frontLine g.link.input).length ≤ limit :=
      Nat.le_trans (Nat.le_max_right _ _) hlines
    show Matches limit most (Connection.readLine c) ((MemoryLink.readLine g.link).1,
      { link := (MemoryLink.readLine g.link).2, longest := g.measure.longest })
    rcases hsplit : MemoryLink.splitLine g.link.input with _ | ⟨line, rest⟩
    · -- the string ends before the line does
      have hlf := MemoryLink.splitLine_eq_none.mp hsplit
      obtain ⟨e, c', hread, hkind⟩ := Connection.readLine_of_unended h.carries hlf
        (h.lt_lineLimit hfront (MemoryLink.length_le_frontLine_of_unended hlf) (Nat.le_refl _))
      rw [hread, MemoryLink.readLine_of_unended h.connected hlf, h.exhausted_eq]
      exact .error _ _ hkind
    · obtain ⟨hlf, hin⟩ := MemoryLink.splitLine_eq_some.mp hsplit
      have hlimit : line.length < c.lineLimit :=
        h.lt_lineLimit hfront (MemoryLink.length_le_frontLine_of_split hsplit) (by simp [hin])
      have hcarries := h.carries
      rw [hin] at hcarries
      rw [MemoryLink.readLine_of_split h.connected hsplit]
      cases hchomp : MemoryLink.chomp? line with
      | some payload =>
          obtain rfl := MemoryLink.chomp?_eq_some.mp hchomp
          have hpayload : c.Carries (payload ++ (Bytes.crlf ++ rest)) := by
            simpa [Bytes.crlf] using hcarries
          obtain ⟨c', hread, hrest, hmax⟩ := Connection.readLine_of_line hpayload
            (fun hmem => hlf (List.mem_append_left _ hmem)) (by simpa using hlimit)
          rw [hread]
          exact .ok payload (h.behind hrest hmax (by simp [hin]; omega) _)
      | none =>
          have hbare : line.getLast? ≠ some Bytes.cr := by
            intro hlast
            rw [MemoryLink.chomp?, if_pos hlast] at hchomp
            cases hchomp
          obtain ⟨e, c', hread, hkind⟩ := Connection.readLine_of_bare hcarries hlf hbare hlimit
          rw [hread]
          exact .error _ _ hkind

theorem readBytes {n : Nat} (hn : n ≤ most) :
    Alike limit most (Transport.readBytes n : Action Connection Bytes)
      (Transport.readBytes n) where
  grows g := Nat.le_refl g.longest
  run {c g} h hlines := by
    show Matches limit most (Connection.readBytes n c) ((MemoryLink.readBytes n g.link).1,
      { link := (MemoryLink.readBytes n g.link).2, longest := g.longest })
    have hmemory := h.memory
    by_cases hblock : maxBlock < n
    · -- no string in memory is as long
      have hshort : g.link.input.length < n := by
        rw [maxBlock] at hblock
        omega
      rw [Connection.readBytes_of_wide h.carries.connected hblock,
        MemoryLink.readBytes_of_short h.connected hshort, h.exhausted_eq]
      exact .overrun _ ⟨n, rfl, hblock, hn⟩ rfl
    have hblock := Nat.not_lt.mp hblock
    by_cases hshort : g.link.input.length < n
    · obtain ⟨e, c', hread, hkind⟩ := Connection.readBytes_of_short h.carries hshort hblock
      rw [hread, MemoryLink.readBytes_of_short h.connected hshort, h.exhausted_eq]
      exact .error _ _ hkind
    · have hlen : (g.link.input.take n).length = n := List.length_take_of_le (Nat.not_lt.mp hshort)
      have hin : g.link.input = g.link.input.take n ++ g.link.input.drop n :=
        (List.take_append_drop n g.link.input).symm
      have hcarries := h.carries
      rw [hin] at hcarries
      obtain ⟨c', hread, hrest, hmax⟩ := Connection.readBytes_of_append hcarries hlen hblock
      rw [hread, MemoryLink.readBytes_of_append h.connected hlen hin]
      exact .ok _ (h.behind hrest hmax (by simp) _)

/-- Reads of at most `most` bytes run alike, and so does what is put together from them. -/
theorem congruence (limit most : Nat) :
    Decoder.Congruence (fun α (x : Action Connection α) (y : Action GaugedLink α) =>
      Alike limit most x y) (fun n => n ≤ most) where
  give := give
  bind := bind
  stall := stall
  refuse := refuse
  readLine := readLine
  readBytes := readBytes

end Alike

end Connection

namespace Decoder

open Connection

variable {d : Decoder} {limit : Nat} {c : Connection} {g : GaugedLink}

/-- Decoding a reply runs alike on a connection and on the link beside it. -/
theorem decode_matches (h : Beside limit c g) (hlines : (d.decode g).2.longest ≤ limit) :
    Matches limit (d.maxFrameSize + 2) (d.decode c) (d.decode g) := by
  have hcongruence := Alike.congruence limit (d.maxFrameSize + 2)
  have halike : Alike limit (d.maxFrameSize + 2) (d.readFrame (pending g) : Action Connection Frame)
      (d.readFrame (pending g)) :=
    hcongruence.readFrame (hcongruence.compares d fun n hn => Nat.add_le_add_right hn 2) (pending g)
  have hpending : pending c = pending g := by
    rw [Lawful.pending_eq, show Lawful.upcoming c = g.link.input from h.carries.upcoming]
    rfl
  have hc : d.readElement c = d.readFrame (pending g) c := by rw [readElement, hpending]
  rcases hg : d.readElement g with ⟨out, g'⟩
  have hlines' : g'.longest ≤ limit := by
    cases out with
    | ok f => rwa [decode, orDisconnect_of_ok hg] at hlines
    | error e => rwa [decode, orDisconnect_of_error hg] at hlines
    | stalled => rwa [decode, orDisconnect_of_stalled hg] at hlines
  have hread : Matches limit (d.maxFrameSize + 2) (d.readElement c) (d.readElement g) := by
    rw [hc]
    exact halike.run h (by rwa [show d.readFrame (pending g) g = (out, g') from hg])
  rw [hg] at hread
  rcases hrun : d.readElement c with ⟨out', c'⟩
  rw [hrun] at hread
  cases hread with
  | ok f h' =>
      rw [decode, decode, orDisconnect_of_ok hrun, orDisconnect_of_ok hg]
      exact .ok f h'
  | error _ _ hkind =>
      rw [decode, decode, orDisconnect_of_error hrun, orDisconnect_of_error hg]
      exact .error _ _ hkind
  | overrun _ hover he =>
      rw [decode, decode, orDisconnect_of_stalled hrun, orDisconnect_of_error hg]
      exact .overrun _ hover he
  | stalled =>
      rw [decode, decode, orDisconnect_of_stalled hrun, orDisconnect_of_stalled hg]
      exact .stalled _ _

/-- Decoding replies one after another gives these frames, and then the program stops over the
next one: it declares a blob that is within the limit and fits in no block of memory. -/
def Overruns (d : Decoder) (c : Connection) (frames : List Frame) : Prop :=
  ∃ c₁ c₂, Runs d.decode c frames c₁ ∧ d.decode c₁ = (.stalled, c₂) ∧ c₂.Overran (d.maxFrameSize + 2)

/-- The replies of a link are those of the connection beside it, unless the program stops. -/
theorem Replies.through_pipe {frames : List Frame} {kind : FailureKind}
    (h : d.Replies g frames kind) (hbeside : Beside limit c g) (hlines : d.LinesWithin g limit) :
    d.Replies c frames kind ∨ kind = .connection ∧ d.Overruns c frames := by
  induction h generalizing c with
  | @stop g g' e h _ =>
      have hmatches := decode_matches hbeside hlines.first
      rcases hc : d.decode c with ⟨out, c'⟩
      rw [hc, h] at hmatches
      cases hmatches with
      | error _ _ hkind =>
          obtain ⟨u, -, rfl⟩ := orDisconnect_eq_error hc
          rw [← hkind]
          exact .inl (.stop hc rfl)
      | overrun _ hover he => exact .inr ⟨he, c, c', .nil c, hc, hover⟩
  | @reply g g' f frames kind h _ ih =>
      have hmatches := decode_matches hbeside hlines.first
      rcases hc : d.decode c with ⟨out, c'⟩
      rw [hc, h] at hmatches
      cases hmatches with
      | ok _ hbeside' =>
          rcases ih hbeside' (hlines.behind h) with hreplies | ⟨hkind, c₁, c₂, hruns, hstops⟩
          · exact .inl (.reply hc hreplies)
          · exact .inr ⟨hkind, c₁, c₂, .cons hc hruns, hstops⟩

/-- **A decoder cannot tell a pipe from memory.** If a connection carries a byte string and no
header line that is read there is longer than the connection allows, then decoding one reply
after another gives the same frames through the connection and from memory, and stops at the
same reply with failures of one kind, both transports given up. Where the string ends before
the reply does, that kind is the loss of the connection. There is one exception, under limits
of 2 ^ 63 - 2 and more: a reply whose blob is within the limit but fits in no block of memory
stops the program that reads it from the connection. -/
theorem decode_through_pipe {b : Bytes} (hc : c.Carries b) (hmemory : b.length < 2 ^ 63)
    (hlines : d.LinesWithin { link := { input := b } } c.maxLine) :
    ∃ frames kind, d.Replies ({ input := b } : MemoryLink) frames kind ∧
      (d.Replies c frames kind ∨ kind = .connection ∧ d.Overruns c frames) ∧
        ∀ more f rest kind', d.Replies ({ input := b ++ more } : MemoryLink)
          (frames ++ f :: rest) kind' → kind = .connection := by
  obtain ⟨frames, kind, hreplies⟩ :=
    d.exists_replies (show Answering ({ input := b } : MemoryLink) from
      MemoryLink.answering_of_closed rfl)
  have hbeside : Beside c.maxLine c { link := { input := b } } := ⟨hc, rfl, rfl, rfl, hmemory⟩
  refine ⟨frames, kind, hreplies, (hreplies.gauged 0).through_pipe hbeside hlines, ?_⟩
  exact fun more f rest kind' hmore => hreplies.connection_of_more rfl hmore

/-- `+ab $3 ↵: *1 $`, cut inside its line ends and inside its payload. -/
def cutPieces : List Bytes :=
  [[43, 97], [98, 13], [10, 36, 51], [13], [], [10, 13, 10], [58, 13], [10, 42, 49, 13, 10, 36]]

/-- The pieces come through a pipe that holds two bytes, and no header line is longer than the
three bytes that the connection allows. -/
theorem decode_through_pipe_cut :
    Carries { maxLine := 3, pipe := { capacity := 2, plan := cutPieces.map .send ++ [.finish] } }
        cutPieces.flatten ∧
      (⟨.resp2, 64⟩ : Decoder).LinesWithin { link := { input := cutPieces.flatten } } 3 ∧
      (⟨.resp2, 64⟩ : Decoder).Replies
        ({ maxLine := 3, pipe := { capacity := 2, plan := cutPieces.map .send ++ [.finish] } } :
          Connection) [.simple [97, 98], .bulk [13, 10, 58]] .connection := by
  have hcarries : Carries
      { maxLine := 3, pipe := { capacity := 2, plan := cutPieces.map .send ++ [.finish] } }
      cutPieces.flatten :=
    carries_pieces cutPieces rfl rfl rfl rfl rfl rfl (by decide)
  -- the link that measures its lines reads two replies and then less than one
  have hfirst : (⟨.resp2, 64⟩ : Decoder).decode (⟨{ input := cutPieces.flatten }, 0⟩ :
      GaugedLink) = (.ok (.simple [97, 98]),
        ⟨{ input := [36, 51, 13, 10, 13, 10, 58, 13, 10, 42, 49, 13, 10, 36] }, 3⟩) := by rfl
  have hsecond : (⟨.resp2, 64⟩ : Decoder).decode (⟨{ input := [36, 51, 13, 10, 13, 10, 58, 13, 10,
      42, 49, 13, 10, 36] }, 3⟩ : GaugedLink) =
        (.ok (.bulk [13, 10, 58]), ⟨{ input := [42, 49, 13, 10, 36] }, 3⟩) := by rfl
  have hlast : (⟨.resp2, 64⟩ : Decoder).decode (⟨{ input := [42, 49, 13, 10, 36] }, 3⟩ :
      GaugedLink) = (.error (.connection "memory" "unexpected end of input"),
        ⟨{ input := [36], connected := false }, 3⟩) := by rfl
  have hlines := linesWithin_of_ok hfirst (Nat.le_refl 3)
    (linesWithin_of_ok hsecond (Nat.le_refl 3) (linesWithin_of_error hlast (Nat.le_refl 3)))
  obtain ⟨frames, kind, hreplies, hpipe, -⟩ := decode_through_pipe hcarries (by decide) hlines
  obtain ⟨rfl, rfl⟩ := (hreplies.gauged 0).unique (.reply hfirst (.reply hsecond (.stop hlast rfl)))
  refine ⟨hcarries, hlines, hpipe.resolve_right ?_⟩
  -- a limit of 64 bytes leaves nothing that would not fit
  rintro ⟨-, -, -, -, -, n, -, hwide, hn⟩
  have hn : n ≤ 66 := hn
  rw [maxBlock] at hwide
  omega

/-- `$9223372036854775807`, a blob that no block of memory can hold. -/
def wideBlob : Bytes :=
  [36, 57, 50, 50, 51, 51, 55, 50, 48, 51, 54, 56, 53, 52, 55, 55, 53, 56, 48, 55, 13, 10]

/-- A connection whose peer declares that blob and ends its side. -/
def wideConnection : Connection where
  pipe.plan := [.send wideBlob, .finish]

/-- Under the highest limit there is, decoding from memory fails over this blob with the loss of
the connection. The connection never fails over it, for the program stops. -/
theorem decode_wideBlob :
    wideConnection.Carries wideBlob ∧
      (⟨.resp2, 2 ^ 64 - 1⟩ : Decoder).LinesWithin { link := { input := wideBlob } }
        wideConnection.maxLine ∧
      (⟨.resp2, 2 ^ 64 - 1⟩ : Decoder).Replies ({ input := wideBlob } : MemoryLink) [] .connection ∧
      ∀ frames kind, ¬(⟨.resp2, 2 ^ 64 - 1⟩ : Decoder).Replies wideConnection frames kind := by
  have hcarries : wideConnection.Carries wideBlob :=
    carries_pieces [wideBlob] rfl rfl rfl rfl rfl rfl (by decide)
  have hgauged : (⟨.resp2, 2 ^ 64 - 1⟩ : Decoder).decode (⟨{ input := wideBlob }, 0⟩ : GaugedLink) =
      (.error (.connection "memory" "unexpected end of input"),
        ⟨{ input := [], connected := false }, 20⟩) := by rfl
  have hmemory : (⟨.resp2, 2 ^ 64 - 1⟩ : Decoder).decode ({ input := wideBlob } : MemoryLink) =
      (.error (.connection "memory" "unexpected end of input"),
        { input := [], connected := false }) := by rfl
  have hstops : ((⟨.resp2, 2 ^ 64 - 1⟩ : Decoder).decode wideConnection).1 = .stalled := by rfl
  refine ⟨hcarries, linesWithin_of_error hgauged (by decide), .stop hmemory rfl, ?_⟩
  intro frames kind hreplies
  cases hreplies with
  | stop h _ | reply h _ =>
      rw [h] at hstops
      cases hstops

end Decoder

end RespClient
