import RespClient.Proofs.Pipe.Line

/-!
# Connections that carry a byte string to its end

A connection carries a byte string if it delivers it and its peer then ends its side. However the
peer cuts what it sends, and however little the pipe holds, reading byte by byte gives the string
and then its end. So lines and counted bytes are found where they stand in the string, and nothing
keeps a read waiting.
-/

namespace RespClient

namespace Connection

/-- The connection carries the byte string `b`, and then its end. The last condition is that of
a peer that can send: a pipe without any room never takes a byte from it. -/
structure Carries (c : Connection) (b : Bytes) : Prop where
  connected : c.connected = true
  unlimited : c.readTimeout = none
  upcoming : c.upcoming = b
  ends : c.pipe.Ending
  room : b ≠ [] → 0 < c.pipe.capacity

/-- A new connection carries what its peer sends in pieces before it ends its side. -/
theorem carries_pieces {c : Connection} (pieces : List Bytes) (hc : c.connected = true)
    (hunlimited : c.readTimeout = none) (hbuffer : c.buffer = []) (hincoming : c.pipe.incoming = [])
    (hended : c.pipe.ended = false) (hplan : c.pipe.plan = pieces.map .send ++ [.finish])
    (hcapacity : 0 < c.pipe.capacity) : c.Carries pieces.flatten := by
  have hpieces : Pipe.announced c.pipe.plan = pieces.flatten ∧
      Pipe.finishes c.pipe.plan = true := by
    rw [hplan]
    clear hplan
    induction pieces with
    | nil => exact ⟨rfl, rfl⟩
    | cons piece pieces ih => exact ⟨congrArg (piece ++ ·) ih.1, ih.2⟩
  refine ⟨hc, hunlimited, ?_, .inr hpieces.2, fun _ => hcapacity⟩
  simp [Connection.upcoming, Pipe.upcoming, hbuffer, hincoming, hended, hpieces.1]

variable {c : Connection} {b rest : Bytes}

/-! ## Byte by byte -/

theorem Carries.delivers (h : c.Carries b) : c.Delivers b :=
  ⟨h.connected, h.unlimited, h.upcoming, h.room⟩

/-- What is left of a string that a connection carries is carried too. -/
theorem Carries.continues {c' : Connection} (h : c.Carries b) (hrest : c'.Delivers rest)
    (hcontinues : c.Continues c') : c'.Carries rest ∧ c'.maxLine = c.maxLine :=
  ⟨⟨hrest.connected, hrest.unlimited, hrest.upcoming, hcontinues.ending.mpr h.ends, hrest.room⟩,
    hcontinues.maxLine⟩

/-- The next byte is the first of the string, or the string is at its end. -/
theorem nextByte_of_carries (h : c.Carries b) (needed : Nat) :
    (∃ x rest c', b = x :: rest ∧ c.nextByte none needed = (.byte x, c') ∧ c'.Carries rest ∧
      c'.maxLine = c.maxLine) ∨ b = [] ∧ ∃ c', c.nextByte none needed = (.ended, c') := by
  obtain ⟨arrival, rest, c', hnext, hfronts, hrest, hcontinues⟩ :=
    nextByte_of_delivers h.delivers needed
  cases hfronts with
  | byte x rest => exact .inl ⟨x, rest, c', rfl, hnext, h.continues hrest hcontinues⟩
  | ended _ => exact .inr ⟨rfl, c', hnext⟩
  | never hends => exact absurd h.ends hends

/-! ## Lines -/

/-- A line that ends properly and is not too long is read as it is. -/
theorem readLine_of_line {payload : Bytes} (h : c.Carries (payload ++ (Bytes.crlf ++ rest)))
    (hlf : Bytes.lf ∉ payload) (hlimit : payload.length + 1 < c.lineLimit) :
    ∃ c', readLine c = (.ok payload, c') ∧ c'.Carries rest ∧ c'.maxLine = c.maxLine := by
  obtain ⟨hread, hrest, hcontinues⟩ := h.delivers.readLine_of_line hlf hlimit
  exact ⟨c.afterLine, hread, h.continues hrest hcontinues⟩

/-- A line feed without a carriage return before it is refused. -/
theorem readLine_of_bare {line : Bytes} (h : c.Carries (line ++ Bytes.lf :: rest))
    (hlf : Bytes.lf ∉ line) (hbare : line.getLast? ≠ some Bytes.cr)
    (hlimit : line.length < c.lineLimit) :
    ∃ e c', readLine c = (.error e, c') ∧ e.kind = .protocol :=
  ⟨_, _, h.delivers.readLine_of_bare hlf hbare hlimit, rfl⟩

/-- The end of a string without a line feed is the end of the connection. -/
theorem readLine_of_unended (h : c.Carries b) (hlf : Bytes.lf ∉ b)
    (hlimit : b.length < c.lineLimit) :
    ∃ e c', readLine c = (.error e, c') ∧ e.kind = .connection :=
  ⟨_, _, h.delivers.readLine_of_cut h.ends hlimit hlf, rfl⟩

/-! ## Counted bytes -/

theorem takeBytes_of_append {data : Bytes} (h : c.Carries (data ++ rest)) (taken : Bytes) :
    ∃ c', takeBytes none data.length taken c = (.found, data.reverse ++ taken, c') ∧
      c'.Carries rest ∧ c'.maxLine = c.maxLine := by
  induction data generalizing c taken with
  | nil => exact ⟨c, rfl, h, rfl⟩
  | cons y data ih =>
      rcases nextByte_of_carries h (data.length + 1) with
        ⟨x, rest', c₁, hb, hnext, hrest, hmax⟩ | ⟨hb, -⟩
      · cases hb
        obtain ⟨c', htake, hcarries, hmax'⟩ := ih hrest (y :: taken)
        refine ⟨c', ?_, hcarries, hmax'.trans hmax⟩
        rw [List.length_cons, takeBytes, hnext]
        simp [htake]
      · cases hb

theorem takeBytes_of_short {n : Nat} (h : c.Carries b) (hshort : b.length < n) (taken : Bytes) :
    ∃ taken' c', takeBytes none n taken c = (.ended, taken', c') := by
  induction b generalizing c n taken with
  | nil =>
      obtain ⟨n, rfl⟩ := Nat.exists_eq_succ_of_ne_zero (Nat.ne_of_gt hshort)
      rcases nextByte_of_carries h (n + 1) with ⟨x, rest', c', hb, -⟩ | ⟨-, c', hnext⟩
      · cases hb
      · exact ⟨taken, c', by rw [takeBytes, hnext]⟩
  | cons y b ih =>
      obtain ⟨n, rfl⟩ := Nat.exists_eq_succ_of_ne_zero (Nat.ne_of_gt (Nat.zero_lt_of_lt hshort))
      rcases nextByte_of_carries h (n + 1) with ⟨x, rest', c₁, hb, hnext, hrest, -⟩ | ⟨hb, -⟩
      · cases hb
        obtain ⟨taken', c', htake⟩ := ih hrest (Nat.lt_of_succ_lt_succ hshort) (y :: taken)
        exact ⟨taken', c', by rw [takeBytes, hnext]; exact htake⟩
      · cases hb

theorem readBytes_of_append {data : Bytes} {n : Nat} (h : c.Carries (data ++ rest))
    (hn : data.length = n) (hblock : n ≤ maxBlock) :
    ∃ c', readBytes n c = (.ok data, c') ∧ c'.Carries rest ∧ c'.maxLine = c.maxLine := by
  obtain ⟨c', htake, hcarries, hmax⟩ := takeBytes_of_append h []
  refine ⟨c', ?_, hcarries, hmax⟩
  rw [hn] at htake
  simp [readBytes, h.connected, h.delivers.deadline_eq, Nat.not_lt.mpr hblock, htake]

theorem readBytes_of_short {n : Nat} (h : c.Carries b) (hshort : b.length < n)
    (hblock : n ≤ maxBlock) :
    ∃ e c', readBytes n c = (.error e, c') ∧ e.kind = .connection := by
  obtain ⟨taken, c', htake⟩ := takeBytes_of_short h hshort []
  refine ⟨.io "early eof", c'.disconnect, ?_, rfl⟩
  simp [readBytes, h.connected, h.delivers.deadline_eq, Nat.not_lt.mpr hblock, htake, drop]

/-- Bytes that no block of memory can hold stop the program, whatever is there to read. -/
theorem readBytes_of_wide {n : Nat} (hc : c.connected = true) (hblock : maxBlock < n) :
    readBytes n c = (.stalled, { c with overrun := some n }) := by
  simp [readBytes, hc, hblock]

end Connection

end RespClient
