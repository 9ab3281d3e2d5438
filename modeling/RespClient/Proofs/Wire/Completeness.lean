import RespClient.Proofs.Wire.Depth

/-!
# What is there is decoded

On a link in memory that begins with a complete reply, the decoder returns the frame
that the grammar derives from it and leaves what comes behind. Together with
soundness this makes the grammar an exact account of the decoder. A declared length
has to fit a signed word; it does, since no byte string in memory is longer.
-/

namespace RespClient

namespace Grammar

variable {p : Protocol} {m : Nat} {R : Frame → Bytes → Prop}

/-- The pieces of keys and values, two by two, are the pieces of the pairs. -/
theorem each_both : ∀ {pairs : List (Frame × Frame)} {w : Bytes},
    Each R (alternating pairs) w → Each (Both R) pairs w
  | [], _, .nil => .nil
  | (_, _) :: _, _, .cons hkey (.cons hvalue hs) => by
      rw [← List.append_assoc]
      exact .cons ⟨_, _, rfl, hkey, hvalue⟩ (each_both hs)

/-- Every reply has a tag and a line end. -/
theorem Derives.three_le {f : Frame} {w : Bytes} (h : Derives p m f w) : 3 ≤ w.length := by
  cases h <;> simp [Encoding.blob, Encoding.header, Encoding.line, Bytes.crlf] <;> omega

theorem Each.length_le {items : List Frame} {w : Bytes} (h : Each (Derives p m) items w) :
    items.length ≤ w.length := by
  induction h with
  | nil => exact Nat.zero_le _
  | cons h _ ih =>
      have := h.three_le
      rw [List.length_cons, List.length_append]
      omega

end Grammar

namespace Decoder

open Grammar Encoding RespClient.Action

variable {α β : Type} {d : Decoder}

/-! ## Reading pieces of a link -/

/-- The action takes the piece `w` for the value `a`, whatever comes behind. -/
def Reads (x : Action MemoryLink α) (a : α) (w : Bytes) : Prop :=
  ∀ (l : MemoryLink) (rest : Bytes), l.connected = true → l.input = w ++ rest →
    x l = (.ok a, { l with input := rest })

theorem Reads.pure (a : α) : Reads (pure a) a [] := by
  rintro l rest - rfl
  rfl

theorem Reads.bind {x : Action MemoryLink α} {f : α → Action MemoryLink β} {a : α} {b : β}
    {v w : Bytes} (hx : Reads x a v) (hf : Reads (f a) b w) : Reads (x >>= f) b (v ++ w) := by
  intro l rest hc hin
  rw [List.append_assoc] at hin
  rw [bind_of_ok (hx l (w ++ rest) hc hin)]
  exact hf _ rest hc rfl

theorem Reads.accept {r : Except Flaw α} {a : α} (payload : Bytes) (h : r = .ok a) :
    Reads (accept payload r) a [] := by
  rintro l rest - rfl
  exact accept_eq_ok.mpr ⟨h, rfl⟩

theorem readLine_reads {payload : Bytes} (hlf : Bytes.lf ∉ payload) :
    Reads Transport.readLine payload (payload ++ Bytes.crlf) := by
  intro l rest hc hin
  rw [List.append_assoc] at hin
  exact MemoryLink.readLine_of_line hc hlf hin

theorem readHeader_reads {tag : Tag} {payload : Bytes} (hknows : d.protocol.Knows tag)
    (hlf : Bytes.lf ∉ payload) : Reads d.readHeader (tag, payload) (line tag payload) := by
  have hline : Bytes.lf ∉ tag.byte :: payload := by
    rw [List.mem_cons, not_or]
    exact ⟨by cases tag <;> decide, hlf⟩
  have htag : Tag.ofByte? d.protocol tag.byte = some tag := Tag.ofByte?_eq_some.mpr ⟨rfl, hknows⟩
  intro l rest hc hin
  show (Transport.readLine >>= _) l = _
  rw [bind_of_ok (readLine_reads hline l rest hc hin)]
  simp only [htag]
  rfl

theorem readBlob_reads (data : Bytes) :
    Reads (readBlob data.length) data (data ++ Bytes.crlf) := by
  intro l rest hc hin
  have hread : Transport.readBytes (data.length + 2) l =
      (.ok (data ++ Bytes.crlf), { l with input := rest }) :=
    MemoryLink.readBytes_of_append hc (by simp [Bytes.crlf]) hin
  show (Transport.readBytes (data.length + 2) >>= _) l = _
  rw [bind_of_ok hread]
  simp

theorem runs_of_each {x : Action MemoryLink α} {items : List α} {w : Bytes}
    (h : Each (Reads x) items w) {l : MemoryLink} {rest : Bytes} (hc : l.connected = true)
    (hin : l.input = w ++ rest) : Runs x l items { l with input := rest } := by
  induction h generalizing l with
  | nil =>
      obtain rfl : l.input = rest := hin
      exact .nil l
  | @cons a as v w hx _ ih =>
      rw [List.append_assoc] at hin
      exact .cons (hx l (w ++ rest) hc hin) (ih hc rfl)

theorem gather_reads {x : Action MemoryLink α} {items : List α} {w : Bytes}
    (h : Each (Reads x) items w) : Reads (gather x items.length []) items w := by
  intro l rest hc hin
  exact gather_of_runs (runs_of_each h hc hin) []

theorem readPair_reads {x : Action MemoryLink Frame} {pair : Frame × Frame} {w : Bytes}
    (h : Both (Reads x) pair w) : Reads (readPair x) pair w := by
  obtain ⟨u, v, rfl, hkey, hvalue⟩ := h
  have hread := hvalue.bind (f := fun value => pure (pair.1, value)) (.pure pair)
  rw [List.append_nil] at hread
  exact hkey.bind (f := fun key => x >>= fun value => pure (key, value)) hread

theorem Each.readPairs {x : Action MemoryLink Frame} {pairs : List (Frame × Frame)} {w : Bytes}
    (h : Each (Both (Reads x)) pairs w) : Each (Reads (readPair x)) pairs w := by
  induction h with
  | nil => exact .nil
  | cons h _ ih => exact .cons (readPair_reads h) ih

theorem readSequence_reads {x : Action MemoryLink α} {items : List α} {w : Bytes}
    (h : Each (Reads x) items w) (build : List α → Frame)
    (hlimit : items.length ≤ d.maxFrameSize / 16) (hword : items.length < 2 ^ 63) :
    Reads (d.readSequence (Numeral.natBytes items.length) x build) (build items) w := by
  have hgather := (gather_reads h).bind (f := fun items => pure (build items)) (.pure _)
  rw [List.append_nil] at hgather
  exact (Reads.accept _ (readCount_eq_some.mpr ⟨rfl, hlimit, hword⟩)).bind hgather

/-! ## Whole replies -/

/-- Reading an element takes its header and then what the header asks for. -/
theorem readElement_reads {tag : Tag} {payload w : Bytes} {f : Frame}
    (hknows : d.protocol.Knows tag) (hlf : Bytes.lf ∉ payload)
    (hbody : Reads (d.readBody d.readElement tag payload) f w) :
    Reads d.readElement f (line tag payload ++ w) := by
  intro l rest hc hin
  rw [readElement_eq]
  exact (readHeader_reads hknows hlf).bind
    (f := fun header => d.readBody d.readElement header.1 header.2) hbody l rest hc hin

theorem readElement_reads_missing {tag : Tag} (hknows : d.protocol.Knows tag)
    (htag : Nullable tag) : Reads d.readElement .null (line tag (Numeral.intBytes (-1))) := by
  have hcount : d.readCount (Numeral.intBytes (-1)) = .ok none := readCount_eq_none.mpr rfl
  have hlength : d.readLength (Numeral.intBytes (-1)) = .ok none := readLength_eq_none.mpr rfl
  rw [← List.append_nil (line _ _)]
  apply readElement_reads hknows (Numeral.lf_notMem_intBytes _)
  cases htag with
  | bulk => exact (Reads.accept _ hlength).bind (.pure _)
  | array => exact (Reads.accept _ hcount).bind (.pure _)
  | set => exact (Reads.accept _ hcount).bind (.pure _)
  | push => exact (Reads.accept _ hcount).bind (.pure _)
  | map => exact (Reads.accept _ hcount).bind (.pure _)

theorem readBlob_bind_reads {data : Bytes} {build : Bytes → Action MemoryLink Frame} {f : Frame}
    (hbuild : Reads (build data) f []) :
    Reads (readBlob data.length >>= build) f (data ++ Bytes.crlf) := by
  have hread := (readBlob_reads data).bind hbuild
  rwa [List.append_nil] at hread

theorem length_lt_of_blob {tag : Tag} {data : Bytes} (h : (blob tag data).length < 2 ^ 63) :
    data.length < 2 ^ 63 := by
  simp only [blob, List.length_append] at h
  omega

mutual

/-- Every derivable reply is read as its frame. -/
theorem reads_of_derives : ∀ {f : Frame} {w : Bytes},
    Derives d.protocol d.maxFrameSize f w → w.length < 2 ^ 63 → Reads d.readElement f w
  | _, _, .scalar hknows hlf h, _ => by
      obtain ⟨htag, hread⟩ := readScalar_eq_ok.mpr h
      rw [← List.append_nil (line _ _)]
      apply readElement_reads hknows hlf
      rw [readBody_of_scalar htag]
      exact Reads.accept _ hread
  | _, _, .missing hknows htag, _ => readElement_reads_missing hknows htag
  | _, _, @Derives.bulk _ _ data hknows h, hword => by
      have hlength := readLength_eq_some.mpr ⟨rfl, h, length_lt_of_blob hword⟩
      apply readElement_reads hknows (Numeral.lf_notMem_natBytes _)
      exact (Reads.accept _ hlength).bind (readBlob_bind_reads (.pure _))
  | _, _, @Derives.blobError _ _ data hknows h, hword => by
      have hlength := readLength_eq_some.mpr ⟨rfl, h, length_lt_of_blob hword⟩
      apply readElement_reads hknows (Numeral.lf_notMem_natBytes _)
      exact (Reads.accept _ (readRequiredLength_eq_ok.mpr hlength)).bind
        (readBlob_bind_reads (.pure _))
  | _, _, @Derives.verbatim _ _ format text hknows hformat h, hword => by
      have hlength := readLength_eq_some.mpr ⟨rfl, h, length_lt_of_blob hword⟩
      have hsplit := splitVerbatim_eq_ok.mpr ⟨format, text, hformat, rfl, rfl⟩
      apply readElement_reads hknows (Numeral.lf_notMem_natBytes _)
      exact (Reads.accept _ (readRequiredLength_eq_ok.mpr hlength)).bind
        (readBlob_bind_reads (.accept _ hsplit))
  | _, _, .sequence hknows htag hf hlimit hs, hword => by
      rw [List.length_append] at hword
      have hlen := hs.length_le
      have hitems := reads_of_each hs (by omega)
      subst hf
      apply readElement_reads hknows (Numeral.lf_notMem_natBytes _)
      cases htag with
      | array => exact readSequence_reads hitems .array hlimit (by omega)
      | set => exact readSequence_reads hitems .set hlimit (by omega)
      | push => exact readSequence_reads hitems .push hlimit (by omega)
  | _, _, @Derives.map _ _ pairs _ hknows hlimit hs, hword => by
      rw [List.length_append] at hword
      have hlen := hs.length_le
      have hpairs := length_alternating pairs
      have hitems := Each.readPairs (each_both (reads_of_each hs (by omega)))
      apply readElement_reads hknows (Numeral.lf_notMem_natBytes _)
      exact readSequence_reads hitems .map hlimit (by omega)

theorem reads_of_each : ∀ {items : List Frame} {w : Bytes},
    Each (Derives d.protocol d.maxFrameSize) items w → w.length < 2 ^ 63 →
      Each (Reads d.readElement) items w
  | _, _, .nil, _ => .nil
  | _, _, .cons h hs, hword => by
      rw [List.length_append] at hword
      exact .cons (reads_of_derives h (by omega)) (reads_of_each hs (by omega))

end

/-- A link that begins with a derivable reply gives its frame and keeps the rest. -/
theorem decode_of_derives {l : MemoryLink} {f : Frame} {w rest : Bytes}
    (hc : l.connected = true) (hin : l.input = w ++ rest)
    (h : Derives d.protocol d.maxFrameSize f w) (hword : w.length < 2 ^ 63) :
    d.decode l = (.ok f, { l with input := rest }) :=
  orDisconnect_eq_ok.mpr (reads_of_derives h hword l rest hc hin)

/-- **The decoder accepts exactly the grammar.** On a connected link it returns a
frame if and only if what is there begins with a reply that the grammar derives for
this frame, and then it takes that reply off and touches nothing else. The bound is
that of memory: every byte string is shorter. -/
theorem decode_eq_ok_iff_derives {l l' : MemoryLink} {f : Frame} (hc : l.connected = true)
    (hmemory : l.input.length < 2 ^ 63) :
    d.decode l = (.ok f, l') ↔
      ∃ w rest, l.input = w ++ rest ∧ Derives d.protocol d.maxFrameSize f w ∧
        l' = { l with input := rest } := by
  have hword : ∀ {w rest : Bytes}, l.input = w ++ rest → w.length < 2 ^ 63 := by
    intro w rest hin
    rw [hin, List.length_append] at hmemory
    omega
  constructor
  · intro h
    obtain ⟨w, hderives, -, hin⟩ := d.decode_sound h
    -- soundness knows what was taken, completeness that nothing else has changed
    have hdecode := decode_of_derives hc hin hderives (hword hin)
    rw [h] at hdecode
    exact ⟨w, l'.input, hin, hderives, (Prod.mk.inj hdecode).2⟩
  · rintro ⟨w, rest, hin, hderives, rfl⟩
    exact decode_of_derives hc hin hderives (hword hin)

/-- `%1 $1 a $-1` is a map; the length in `$01 a` is no length. -/
theorem decode_eq_ok_iff_derives_pair :
    (∃ w rest, [37, 49, 13, 10, 36, 49, 13, 10, 97, 13, 10, 36, 45, 49, 13, 10, 43] = w ++ rest ∧
      Derives .resp3 64 (.map [(.bulk [97], .null)]) w ∧
        ({ input := [43] } : MemoryLink) = { input := rest }) ∧
      ¬∃ w rest, [36, 48, 49, 13, 10, 97, 13, 10] = w ++ rest ∧
        Derives .resp3 64 (.bulk [97]) w ∧ ({ input := [] } : MemoryLink) = { input := rest } := by
  constructor
  · have hdecode : (⟨.resp3, 64⟩ : Decoder).decode ({ input := [37, 49, 13, 10, 36, 49, 13, 10,
        97, 13, 10, 36, 45, 49, 13, 10, 43] } : MemoryLink) =
          (.ok (.map [(.bulk [97], .null)]), { input := [43] }) := by rfl
    exact (decode_eq_ok_iff_derives rfl (by decide)).mp hdecode
  · intro h
    have hdecode := (decode_eq_ok_iff_derives (d := ⟨.resp3, 64⟩)
      (l := { input := [36, 48, 49, 13, 10, 97, 13, 10] }) rfl (by decide)).mpr h
    exact absurd (congrArg (fun r => r.2.input.length) hdecode) (by decide)

end Decoder

end RespClient
