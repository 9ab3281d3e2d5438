import RespClient.Proofs.Decimal.Notation
import RespClient.Proofs.Wire.Completeness
import RespClient.Proofs.Text.Utf8

/-!
# Round trip

A frame that can be told apart on the wire survives it: it is encoded as a reply that
the grammar derives for it, so the decoder returns it, whatever comes behind. The side
conditions are those of the wire itself. A line cannot hold a line feed, lengths and
counts stay within the limits, and a big number is written as one. Of doubles it is
asked that their text is read back as the same number.
-/

namespace RespClient

namespace Frame

open Grammar

mutual

/-- Can the wire carry the frame under the limit `m`? -/
def WellFormed (m : Nat) : Frame → Prop
  | .simple b => Bytes.lf ∉ b
  | .error ⟨message, blob⟩ =>
      if blob then (Utf8.encode message).length ≤ m else Bytes.lf ∉ Utf8.encode message
  | .integer _ => True
  | .bulk b => b.length ≤ m
  | .array items => items.length ≤ m / 16 ∧ AllWellFormed m items
  | .null => True
  | .double x => Binary64.read? (Utf8.encode x.plainText) = some x
  | .boolean _ => True
  | .bigNumber text => BigNumber (Utf8.encode text)
  | .map pairs => pairs.length ≤ m / 16 ∧ PairsWellFormed m pairs
  | .set items => items.length ≤ m / 16 ∧ AllWellFormed m items
  | .push items => items.length ≤ m / 16 ∧ AllWellFormed m items
  | .verbatim format text => format.length = 3 ∧ (format ++ 58 :: text).length ≤ m

def AllWellFormed (m : Nat) : List Frame → Prop
  | [] => True
  | frame :: rest => WellFormed m frame ∧ AllWellFormed m rest

def PairsWellFormed (m : Nat) : List (Frame × Frame) → Prop
  | [] => True
  | (key, value) :: rest => WellFormed m key ∧ WellFormed m value ∧ PairsWellFormed m rest

end

mutual

/-- Is it made of what the second revision has? -/
def Classic : Frame → Prop
  | .simple _ => True
  | .error ⟨_, blob⟩ => blob = false
  | .integer _ => True
  | .bulk _ => True
  | .array items => AllClassic items
  | .null => True
  | _ => False

def AllClassic : List Frame → Prop
  | [] => True
  | frame :: rest => Classic frame ∧ AllClassic rest

end

end Frame

/-! ## The text of a double is a line -/

namespace Binary64

theorem lf_notMem_plainText (x : Binary64) : Bytes.lf ∉ Utf8.encode x.plainText := by
  rw [Utf8.lf_mem_encode]
  unfold plainText
  split
  · decide
  · split
    · split <;> decide
    · rw [String.toList_ofList]
      intro h
      rcases mem_notation h with h | h | h <;> exact absurd h (by decide)

end Binary64

/-! ## What is written is derivable -/

namespace Frame

open Grammar Encoding

variable {p q : Protocol} {m : Nat}

/-- Can a decoder of revision `q` take what an encoder of revision `p` wrote? -/
def Suits (p q : Protocol) (f : Frame) : Prop :=
  q = .resp3 ∨ p = .resp2 ∧ Classic f

theorem Digits.lf_notMem {b : Bytes} (h : Digits b) : Bytes.lf ∉ b := fun hmem =>
  absurd (h.2 _ hmem) (by decide)

theorem BigNumber.lf_notMem {b : Bytes} (h : BigNumber b) : Bytes.lf ∉ b := by
  rcases h with h | ⟨digits, rfl, h⟩
  · exact Digits.lf_notMem h
  · rw [List.mem_cons, not_or]
    exact ⟨by decide, Digits.lf_notMem h⟩

theorem knows_of_mem {tag : Tag} (h : tag ∈ Tag.resp2) : q.Knows tag := Or.inr h

mutual

/-- A frame that the wire can carry is written as a reply that is this frame. -/
theorem derives_encode : ∀ f : Frame, WellFormed m f → Suits p q f →
    Derives q m f (encode p f)
  | .simple b, hb, _ => .scalar (knows_of_mem (by decide)) hb (.simple b)
  | .error ⟨message, false⟩, h, _ => by
      have hscalar := Scalar.error (Utf8.encode message)
      rw [Utf8.lossy_encode] at hscalar
      exact .scalar (knows_of_mem (by decide)) h hscalar
  | .error ⟨message, true⟩, h, hq => by
      have hderives := Derives.blobError (p := q) (m := m)
        (.inl (hq.resolve_right (by simp [Classic]))) h
      rwa [Utf8.lossy_encode] at hderives
  | .integer n, _, _ =>
      .scalar (knows_of_mem (by decide)) (Numeral.lf_notMem_intBytes _)
        (.integer (Numeral.readInt64?_intBytes_toInt n))
  | .bulk b, h, _ => .bulk (knows_of_mem (by decide)) h
  | .array items, ⟨hlimit, h⟩, hq =>
      .sequence (knows_of_mem (by decide)) .array rfl hlimit (derives_encodeAll items h hq)
  | .null, _, hq => by
      cases p with
      -- written as a bulk string that is missing, whoever reads it
      | resp2 => exact .missing (knows_of_mem (by decide)) .bulk
      | resp3 =>
          have hq : q = .resp3 := hq.resolve_right (by simp)
          exact .scalar (.inl hq) List.not_mem_nil (.null [])
  | .double x, h, hq =>
      .scalar (.inl (hq.resolve_right (by simp [Classic]))) x.lf_notMem_plainText (.double h)
  | .boolean b, _, hq => by
      have hresp3 : q = .resp3 := hq.resolve_right (by simp [Classic])
      cases b with
      | true => exact .scalar (.inl hresp3) (by decide) .true
      | false => exact .scalar (.inl hresp3) (by decide) (.false (by decide))
  | .bigNumber text, h, hq => by
      have hscalar := Scalar.bigNumber h
      rw [Utf8.lossy_encode] at hscalar
      exact .scalar (.inl (hq.resolve_right (by simp [Classic]))) (BigNumber.lf_notMem h) hscalar
  | .map pairs, ⟨hlimit, h⟩, hq =>
      have hq : q = .resp3 := hq.resolve_right (by simp [Classic])
      .map (.inl hq) hlimit (derives_encodePairs pairs h hq)
  | .set items, ⟨hlimit, h⟩, hq =>
      have hq : q = .resp3 := hq.resolve_right (by simp [Classic])
      .sequence (.inl hq) .set rfl hlimit (derives_encodeAll items h (.inl hq))
  | .push items, ⟨hlimit, h⟩, hq =>
      have hq : q = .resp3 := hq.resolve_right (by simp [Classic])
      .sequence (.inl hq) .push rfl hlimit (derives_encodeAll items h (.inl hq))
  | .verbatim _ _, ⟨hformat, h⟩, hq =>
      .verbatim (.inl (hq.resolve_right (by simp [Classic]))) hformat h

theorem derives_encodeAll : ∀ items : List Frame, AllWellFormed m items →
    (q = .resp3 ∨ p = .resp2 ∧ AllClassic items) →
      Each (Derives q m) items (encodeAll p items)
  | [], _, _ => .nil
  | frame :: rest, ⟨h, hs⟩, hq =>
      .cons (derives_encode frame h (hq.imp_right fun hq => ⟨hq.1, hq.2.1⟩))
        (derives_encodeAll rest hs (hq.imp_right fun hq => ⟨hq.1, hq.2.2⟩))

theorem derives_encodePairs : ∀ pairs : List (Frame × Frame), PairsWellFormed m pairs →
    q = .resp3 → Each (Derives q m) (alternating pairs) (encodePairs p pairs)
  | [], _, _ => .nil
  | (key, value) :: rest, ⟨hkey, hvalue, hs⟩, hq =>
      .cons (derives_encode key hkey (.inl hq))
        (.cons (derives_encode value hvalue (.inl hq)) (derives_encodePairs rest hs hq))

end

theorem allWellFormed_iff {items : List Frame} :
    AllWellFormed m items ↔ ∀ f ∈ items, f.WellFormed m := by
  induction items with
  | nil => simp [AllWellFormed]
  | cons frame rest ih => rw [AllWellFormed, ih, List.forall_mem_cons]

theorem allClassic_iff {items : List Frame} : AllClassic items ↔ ∀ f ∈ items, f.Classic := by
  induction items with
  | nil => simp [AllClassic]
  | cons frame rest ih => rw [AllClassic, ih, List.forall_mem_cons]

end Frame

/-! ## Encoders -/

namespace Encoder

/-- What is done to an encoder. -/
inductive Move
  | put (frame : Frame)
  | take

/-- The bytes taken along some moves and at their end, one after another. -/
def play : List Move → Encoder → Bytes
  | [], e => e.take.1
  | .put frame :: moves, e => play moves (e.put frame)
  | .take :: moves, e => e.take.1 ++ play moves e.take.2

/-- The frames that some moves put. -/
def frames : List Move → List Frame
  | [] => []
  | .put frame :: moves => frame :: frames moves
  | .take :: moves => frames moves

/-- It does not matter when the bytes are taken. -/
theorem play_eq (moves : List Move) (e : Encoder) :
    play moves e = e.buffer ++ Frame.encodeAll e.protocol (frames moves) := by
  induction moves generalizing e with
  | nil => simp [play, frames, take, Frame.encodeAll]
  | cons move moves ih =>
      cases move with
      | put frame => simp [play, frames, ih, put, Frame.encodeAll]
      | take => simp [play, frames, ih, take]

end Encoder

namespace Decoder

open Grammar

theorem Each.decode_reads {d : Decoder} {items : List Frame} {w : Bytes}
    (h : Each (Derives d.protocol d.maxFrameSize) items w) (hword : w.length < 2 ^ 63) :
    Each (Reads d.decode) items w := by
  induction h with
  | nil => exact .nil
  | cons h hs ih =>
      rw [List.length_append] at hword
      refine .cons ?_ (ih (by omega))
      intro l rest hc hin
      exact decode_of_derives hc hin h (by omega)

/-- **Frames survive the wire.** Whatever an encoder was given, and whenever its bytes
were taken, a decoder returns the same frames in order and leaves what comes behind,
on a link that stays connected. A decoder of the third revision takes what either
encoder wrote; one of the second revision takes the frames that this revision has. -/
theorem gather_decode_play {d : Decoder} {p : Protocol} (moves : List Encoder.Move)
    {l : MemoryLink} {rest : Bytes} (hc : l.connected = true)
    (hin : l.input = Encoder.play moves ⟨p, []⟩ ++ rest) (hmemory : l.input.length < 2 ^ 63)
    (hformed : ∀ f ∈ Encoder.frames moves, f.WellFormed d.maxFrameSize)
    (hsuits : d.protocol = .resp3 ∨
      p = .resp2 ∧ ∀ f ∈ Encoder.frames moves, f.Classic) :
    gather d.decode (Encoder.frames moves).length [] l =
      (.ok (Encoder.frames moves), { l with input := rest }) := by
  simp only [Encoder.play_eq, List.nil_append] at hin
  rw [hin, List.length_append] at hmemory
  have heach : Each (Derives d.protocol d.maxFrameSize) (Encoder.frames moves)
      (Frame.encodeAll p (Encoder.frames moves)) :=
    Frame.derives_encodeAll _ (Frame.allWellFormed_iff.mpr hformed)
      (hsuits.imp_right fun h => ⟨h.1, Frame.allClassic_iff.mpr h.2⟩)
  exact gather_reads (Each.decode_reads heach (by omega)) l rest hc hin

/-- A push that holds a map, and null, taken apart, with a half line behind them. -/
theorem gather_decode_play_nested :
    let frames := [Frame.push [.map [(.bulk [13, 10, 43], .double ⟨0x400C000000000000⟩)],
      .error ⟨"é", true⟩, .verbatim [116, 120, 116] [10], .bigNumber "-12"], .null]
    let moves := frames.flatMap fun frame => [Encoder.Move.put frame, .take]
    let l : MemoryLink := { input := Encoder.play moves ⟨.resp2, []⟩ ++ [43, 13] }
    (∀ f ∈ frames, f.WellFormed 64) ∧
      gather (decode ⟨.resp3, 64⟩) 2 [] l = (.ok frames, { l with input := [43, 13] }) := by
  intro frames moves l
  have hdouble : (⟨0x400C000000000000⟩ : Binary64).plainText = "3.5" := by decide +kernel
  have hnumber : BigNumber (Utf8.encode "-12") :=
    .inr ⟨Numeral.natBytes 12, by decide, Numeral.natBytes_ne_nil 12,
      fun _ => Numeral.isDigit_of_mem_natBytes⟩
  have hformed : ∀ f ∈ frames, f.WellFormed 64 := by
    have hread : Binary64.read? (Utf8.encode "3.5") = some ⟨0x400C000000000000⟩ := by
      decide +kernel
    have hblob : (Utf8.encode "é").length ≤ 64 := by decide
    simp [frames, Frame.WellFormed, Frame.AllWellFormed, Frame.PairsWellFormed, hdouble, hread,
      hblob, hnumber]
  exact ⟨hformed, gather_decode_play (d := ⟨.resp3, 64⟩) moves rfl rfl (by decide +kernel) hformed
    (.inl rfl)⟩

end Decoder

end RespClient
