import RespClient.Proofs.Wire.Transport
import RespClient.Proofs.Wire.Grammar

/-!
# What was decoded was there

On any lawful transport, a frame that the decoder returns is the frame that the
grammar derives from the bytes the decoder took. The induction is on the depth to
which nested frames are read; every part of a reply takes its own piece of what the
transport has ahead.
-/

namespace RespClient

namespace Transport

variable {τ : Type} [Transport τ] [Lawful τ]

/-- Between two states exactly the bytes `w` were read, and the transport is still
usable. -/
def Takes (t : τ) (w : Bytes) (t' : τ) : Prop :=
  isConnected t' = true ∧ Lawful.upcoming t = w ++ Lawful.upcoming t'

theorem Takes.refl {t : τ} (h : isConnected t = true) : Takes t [] t := ⟨h, rfl⟩

theorem Takes.trans {t t' t'' : τ} {v w : Bytes} (h : Takes t v t') (h' : Takes t' w t'') :
    Takes t (v ++ w) t'' :=
  ⟨h'.1, by rw [h.2, h'.2, List.append_assoc]⟩

theorem Takes.pending_eq {t t' : τ} {w : Bytes} (h : Takes t w t') :
    pending t = w.length + pending t' := by
  rw [Lawful.pending_eq, Lawful.pending_eq, h.2, List.length_append]

/-- A line that was read was there with its end. -/
theorem readLine_takes {t t' : τ} {line : Bytes} (h : readLine t = (.ok line, t')) :
    Bytes.lf ∉ line ∧ Takes t (line ++ Bytes.crlf) t' := by
  obtain ⟨hconn, hlf, hup⟩ := Lawful.readLine_ok h
  exact ⟨hlf, hconn, by rw [hup, List.append_assoc]⟩

theorem readBytes_takes {t t' : τ} {n : Nat} {data : Bytes}
    (h : readBytes n t = (.ok data, t')) : data.length = n ∧ Takes t data t' := by
  obtain ⟨hconn, hlen, hup⟩ := Lawful.readBytes_ok h
  exact ⟨hlen, hconn, hup⟩

end Transport

namespace Grammar

/-- A key and its value, one after the other. -/
def Both (R : Frame → Bytes → Prop) (pair : Frame × Frame) (w : Bytes) : Prop :=
  ∃ u v, w = u ++ v ∧ R pair.1 u ∧ R pair.2 v

theorem each_alternating {R : Frame → Bytes → Prop} {pairs : List (Frame × Frame)} {w : Bytes}
    (h : Each (Both R) pairs w) : Each R (alternating pairs) w := by
  induction h with
  | nil => exact .nil
  | cons h _ ih =>
      obtain ⟨u, v, rfl, hkey, hvalue⟩ := h
      rw [List.append_assoc]
      exact .cons hkey (.cons hvalue ih)

end Grammar

namespace Decoder

open Transport Grammar Encoding RespClient.Action

variable {τ α : Type} {d : Decoder}

theorem gather_of_runs {x : Action τ α} {items : List α} {t t' : τ} (h : Runs x t items t') (done : List α) :
    gather x items.length done t = (.ok (done.reverse ++ items), t') := by
  induction h generalizing done with
  | nil t => simp [gather]
  | cons h _ ih =>
      rw [List.length_cons, gather, h]
      simpa using ih (_ :: done)

theorem gather_eq_ok {x : Action τ α} {n : Nat} {done items : List α} {t t' : τ} :
    gather x n done t = (.ok items, t') ↔
      ∃ new, Runs x t new t' ∧ new.length = n ∧ items = done.reverse ++ new := by
  constructor
  · intro h
    induction n generalizing done t with
    | zero =>
        cases h
        exact ⟨[], .nil t', rfl, (List.append_nil _).symm⟩
    | succ n ih =>
        rw [gather] at h
        split at h
        · rename_i a t₁ hx
          obtain ⟨new, hruns, hlen, rfl⟩ := ih h
          exact ⟨a :: new, .cons hx hruns, by rw [List.length_cons, hlen], by simp⟩
        · cases h
        · cases h
  · rintro ⟨new, hruns, rfl, rfl⟩
    exact gather_of_runs hruns done

/-! ## The parts of a frame -/

variable [Transport τ]

theorem accept_eq_ok {payload : Bytes} {r : Except Flaw α} {a : α} {t t' : τ} :
    accept payload r t = (.ok a, t') ↔ r = .ok a ∧ t' = t := by
  cases r with
  | ok b =>
      constructor
      · intro h
        cases h
        exact ⟨rfl, rfl⟩
      · rintro ⟨h, rfl⟩
        cases h
        rfl
  | error flaw =>
      constructor
      · intro h
        cases h
      · rintro ⟨h, -⟩
        cases h

theorem readBody_of_scalar {tag : Tag} (h : IsScalar tag) (element : Action τ Frame)
    (payload : Bytes) : d.readBody element tag payload = accept payload (readScalar tag payload) := by
  cases h <;> rfl

theorem orDisconnect_eq_ok {x : Action τ α} {a : α} {t t' : τ} :
    orDisconnect x t = (.ok a, t') ↔ x t = (.ok a, t') := by
  unfold orDisconnect
  split <;> rename_i h
  · simp [h]
  · rfl

theorem orDisconnect_of_ok {x : Action τ α} {a : α} {t t' : τ}
    (h : x t = (.ok a, t')) : orDisconnect x t = (.ok a, t') := by
  unfold orDisconnect
  rw [h]

theorem orDisconnect_of_error {x : Action τ α} {e : Failure} {t t' : τ}
    (h : x t = (.error e, t')) : orDisconnect x t = (.error e, disconnect t') := by
  unfold orDisconnect
  rw [h]

theorem orDisconnect_of_stalled {x : Action τ α} {t t' : τ}
    (h : x t = (.stalled, t')) : orDisconnect x t = (.stalled, t') := by
  unfold orDisconnect
  rw [h]

theorem orDisconnect_eq_error {x : Action τ α} {e : Failure} {t t' : τ}
    (h : orDisconnect x t = (.error e, t')) :
    ∃ u, x t = (.error e, u) ∧ t' = disconnect u := by
  unfold orDisconnect at h
  split at h
  · rename_i hx
    cases h
    exact ⟨_, hx, rfl⟩
  · rename_i hne
    exact absurd h (hne e t')

variable [Lawful τ]

/-- A header that was read is a line that begins with a tag of the revision. -/
theorem readHeader_takes {t t' : τ} {tag : Tag} {payload : Bytes}
    (h : d.readHeader t = (.ok (tag, payload), t')) :
    d.protocol.Knows tag ∧ Bytes.lf ∉ payload ∧ Takes t (line tag payload) t' := by
  obtain ⟨bytes, t₁, hline, hrest⟩ := bind_eq_ok.mp h
  obtain ⟨hlf, htakes⟩ := readLine_takes hline
  cases bytes with
  | nil => cases hrest
  | cons byte rest =>
      cases hbyte : Tag.ofByte? d.protocol byte with
      | none =>
          simp only [hbyte] at hrest
          cases hrest
      | some tag' =>
          simp only [hbyte] at hrest
          cases hrest
          obtain ⟨rfl, hknows⟩ := Tag.ofByte?_eq_some.mp hbyte
          exact ⟨hknows, fun hmem => hlf (List.mem_cons_of_mem _ hmem), htakes⟩

theorem readBlob_takes {t t' : τ} {n : Nat} {data : Bytes}
    (h : readBlob n t = (.ok data, t')) :
    data.length = n ∧ Takes t (data ++ Bytes.crlf) t' := by
  obtain ⟨bytes, t₁, hbytes, hrest⟩ := bind_eq_ok.mp h
  obtain ⟨hlen, htakes⟩ := readBytes_takes hbytes
  by_cases htail : bytes.drop n = Bytes.crlf
  · simp only [if_pos htail] at hrest
    cases hrest
    refine ⟨by rw [List.length_take, hlen]; omega, ?_⟩
    rw [← htail, List.take_append_drop]
    exact htakes
  · simp only [if_neg htail] at hrest
    cases hrest

/-- An action that reads one piece for each value it gives. -/
def Sound (x : Action τ α) (R : α → Bytes → Prop) : Prop :=
  ∀ ⦃t a t'⦄, x t = (.ok a, t') → ∃ w, R a w ∧ Takes t w t'

/-- Run again and again, it reads one piece after another. -/
theorem runs_takes {x : Action τ α} {R : α → Bytes → Prop} (hsound : Sound x R) {as : List α}
    {t t' : τ} (hconn : isConnected t = true) (h : Runs x t as t') :
    ∃ w, Each R as w ∧ Takes t w t' := by
  induction h with
  | nil t => exact ⟨[], .nil, .refl hconn⟩
  | cons h _ ih =>
      obtain ⟨v, hv, htakes⟩ := hsound h
      obtain ⟨w, hw, htakes'⟩ := ih htakes.1
      exact ⟨v ++ w, .cons hv hw, htakes.trans htakes'⟩

theorem readPair_sound {element : Action τ Frame} {R : Frame → Bytes → Prop}
    (hsound : Sound element R) : Sound (readPair element) (Both R) := by
  intro t pair t' h
  obtain ⟨key, t₁, hkey, h⟩ := bind_eq_ok.mp h
  obtain ⟨value, t₂, hvalue, h⟩ := bind_eq_ok.mp h
  cases h
  obtain ⟨u, hu, htakes⟩ := hsound hkey
  obtain ⟨v, hv, htakes'⟩ := hsound hvalue
  exact ⟨u ++ v, ⟨u, v, rfl, hu, hv⟩, htakes.trans htakes'⟩

/-- A counted sequence is null, or as many pieces as its header declares. -/
theorem readSequence_takes {element : Action τ α} {R : α → Bytes → Prop}
    (hsound : Sound element R) {payload : Bytes} {build : List α → Frame} {f : Frame} {t t' : τ}
    (hconn : isConnected t = true)
    (h : d.readSequence payload element build t = (.ok f, t')) :
    (payload = Numeral.intBytes (-1) ∧ f = .null ∧ Takes t [] t') ∨
      ∃ items w, payload = Numeral.natBytes items.length ∧
        items.length ≤ d.maxFrameSize / 16 ∧ Each R items w ∧ f = build items ∧ Takes t w t' := by
  obtain ⟨count, t₁, hcount, hrest⟩ := bind_eq_ok.mp h
  obtain ⟨hread, rfl⟩ := accept_eq_ok.mp hcount
  cases count with
  | none =>
      cases hrest
      exact Or.inl ⟨readCount_eq_none.mp hread, rfl, .refl hconn⟩
  | some n =>
      obtain ⟨items, t₂, hgather, hrest⟩ := bind_eq_ok.mp hrest
      cases hrest
      obtain ⟨hpayload, hlimit, -⟩ := readCount_eq_some.mp hread
      obtain ⟨new, hruns, rfl, hnew⟩ := gather_eq_ok.mp hgather
      obtain ⟨w, hpieces, htakes⟩ := runs_takes hsound hconn hruns
      exact Or.inr ⟨new, w, hpayload, hlimit, hpieces, by rw [hnew]; rfl, htakes⟩

/-! ## Whole frames -/

/-- What follows a header completes a reply. -/
theorem readBody_takes {element : Action τ Frame}
    (hsound : Sound element (Derives d.protocol d.maxFrameSize)) {tag : Tag} {payload : Bytes}
    {f : Frame} {t t' : τ} (hknows : d.protocol.Knows tag) (hlf : Bytes.lf ∉ payload)
    (hconn : isConnected t = true) (h : d.readBody element tag payload t = (.ok f, t')) :
    ∃ w, Derives d.protocol d.maxFrameSize f (line tag payload ++ w) ∧ Takes t w t' := by
  have hscalar : ∀ {tag : Tag}, d.protocol.Knows tag → IsScalar tag →
      d.readBody element tag payload t = (.ok f, t') →
      ∃ w, Derives d.protocol d.maxFrameSize f (line tag payload ++ w) ∧ Takes t w t' := by
    intro tag hknows htag h
    rw [readBody_of_scalar htag, accept_eq_ok] at h
    obtain ⟨hread, rfl⟩ := h
    refine ⟨[], ?_, .refl hconn⟩
    rw [List.append_nil]
    exact .scalar hknows hlf (readScalar_eq_ok.mp ⟨htag, hread⟩)
  have hsequence : ∀ {tag : Tag} {build : List Frame → Frame}, d.protocol.Knows tag →
      Nullable tag → Sequence tag build →
      d.readSequence payload element build t = (.ok f, t') →
      ∃ w, Derives d.protocol d.maxFrameSize f (line tag payload ++ w) ∧ Takes t w t' := by
    intro tag build hknows hnull hseq h
    rcases readSequence_takes hsound hconn h with
      ⟨rfl, rfl, htakes⟩ | ⟨items, w, rfl, hlimit, hitems, rfl, htakes⟩
    · exact ⟨[], by rw [List.append_nil]; exact .missing hknows hnull, htakes⟩
    · exact ⟨w, .sequence hknows hseq rfl hlimit hitems, htakes⟩
  cases tag with
  | simple => exact hscalar hknows .simple h
  | error => exact hscalar hknows .error h
  | integer => exact hscalar hknows .integer h
  | null => exact hscalar hknows .null h
  | double => exact hscalar hknows .double h
  | boolean => exact hscalar hknows .boolean h
  | bigNumber => exact hscalar hknows .bigNumber h
  | array => exact hsequence hknows .array .array h
  | set => exact hsequence hknows .set .set h
  | push => exact hsequence hknows .push .push h
  | map =>
      rcases readSequence_takes (readPair_sound hsound) hconn h with
        ⟨rfl, rfl, htakes⟩ | ⟨pairs, w, rfl, hlimit, hpairs, rfl, htakes⟩
      · exact ⟨[], by rw [List.append_nil]; exact .missing hknows .map, htakes⟩
      · exact ⟨w, .map hknows hlimit (each_alternating hpairs), htakes⟩
  | bulk =>
      obtain ⟨length, t₁, hlength, hrest⟩ := bind_eq_ok.mp h
      obtain ⟨hread, rfl⟩ := accept_eq_ok.mp hlength
      cases length with
      | none =>
          cases hrest
          obtain rfl := readLength_eq_none.mp hread
          exact ⟨[], by rw [List.append_nil]; exact .missing hknows .bulk, .refl hconn⟩
      | some n =>
          obtain ⟨data, t₂, hblob, hgive⟩ := bind_eq_ok.mp hrest
          cases hgive
          obtain ⟨rfl, htakes⟩ := readBlob_takes hblob
          obtain ⟨rfl, hlimit, -⟩ := readLength_eq_some.mp hread
          exact ⟨_, .bulk hknows hlimit, htakes⟩
  | blobError =>
      obtain ⟨n, t₁, hlength, hrest⟩ := bind_eq_ok.mp h
      obtain ⟨hread, rfl⟩ := accept_eq_ok.mp hlength
      obtain ⟨data, t₂, hblob, hgive⟩ := bind_eq_ok.mp hrest
      cases hgive
      obtain ⟨rfl, htakes⟩ := readBlob_takes hblob
      obtain ⟨rfl, hlimit, -⟩ := readLength_eq_some.mp (readRequiredLength_eq_ok.mp hread)
      exact ⟨_, .blobError hknows hlimit, htakes⟩
  | verbatim =>
      obtain ⟨n, t₁, hlength, hrest⟩ := bind_eq_ok.mp h
      obtain ⟨hread, rfl⟩ := accept_eq_ok.mp hlength
      obtain ⟨data, t₂, hblob, haccept⟩ := bind_eq_ok.mp hrest
      obtain ⟨hsplit, rfl⟩ := accept_eq_ok.mp haccept
      obtain ⟨format, text, hformat, rfl, rfl⟩ := splitVerbatim_eq_ok.mp hsplit
      obtain ⟨rfl, htakes⟩ := readBlob_takes hblob
      obtain ⟨rfl, hlimit, -⟩ := readLength_eq_some.mp (readRequiredLength_eq_ok.mp hread)
      exact ⟨_, .verbatim hknows hformat hlimit, htakes⟩

theorem readFrame_sound (d : Decoder) (depth : Nat) :
    Sound (d.readFrame depth : Action τ Frame) (Derives d.protocol d.maxFrameSize) := by
  induction depth with
  | zero =>
      intro t f t' h
      obtain ⟨header, t₁, -, h⟩ := bind_eq_ok.mp h
      cases h
  | succ depth ih =>
      intro t f t' h
      obtain ⟨⟨tag, payload⟩, t₁, hheader, hbody⟩ := bind_eq_ok.mp h
      obtain ⟨hknows, hlf, htakes⟩ := readHeader_takes hheader
      obtain ⟨w, hderives, htakes'⟩ := readBody_takes ih hknows hlf htakes.1 hbody
      exact ⟨line tag payload ++ w, hderives, htakes.trans htakes'⟩

/-- A nested frame that was read is derived from the bytes it took. -/
theorem readElement_sound (d : Decoder) :
    Sound (d.readElement : Action τ Frame) (Derives d.protocol d.maxFrameSize) :=
  fun t _ _ h => d.readFrame_sound (Transport.pending t) h

/-- **A reply that was decoded was there.** -/
theorem decode_sound (d : Decoder) :
    Sound (d.decode : Action τ Frame) (Derives d.protocol d.maxFrameSize) :=
  fun _ _ _ h => d.readElement_sound (orDisconnect_eq_ok.mp h)

end Decoder

end RespClient
