import RespClient.Proofs.Wire.Depth

/-!
# Reading lazily and reading whole

An aggregate that is read one element at a time comes to what it is when read whole:
the same elements in order, the same failure at the same element, the same bytes left
and the same transport. Both ways read the same elements one after another; they differ
in who counts them. The main result says so for every lawful transport and every state
of it.
-/

namespace RespClient

/-! ## Aggregates read whole -/

namespace Decoder

open RespClient.Action Grammar

variable {τ α : Type} {x : Action τ α} {y : Action τ Frame}

theorem gather_of_stopped {items : List α} {t t' t'' : τ} {stop : Option Failure} {n : Nat}
    (h : Runs x t items t') (hlen : items.length < n) (hstop : x t' = (stopped stop, t''))
    (done : List α) : gather x n done t = (stopped stop, t'') := by
  induction h generalizing n done with
  | nil t =>
      obtain ⟨n, rfl⟩ := Nat.exists_eq_succ_of_ne_zero (Nat.ne_of_gt hlen)
      rw [gather, hstop]
      cases stop <;> rfl
  | cons h _ ih =>
      rw [List.length_cons] at hlen
      obtain ⟨n, rfl⟩ := Nat.exists_eq_succ_of_ne_zero (show n ≠ 0 by omega)
      rw [gather, h]
      exact ih (by omega) hstop (_ :: done)

theorem exists_alternating (n : Nat) {items : List Frame} (h : items.length = n * 2) :
    ∃ pairs, pairs.length = n ∧ items = alternating pairs := by
  induction n generalizing items with
  | zero => exact ⟨[], rfl, List.length_eq_zero_iff.mp (by omega)⟩
  | succ n ih =>
      rcases items with _ | ⟨key, _ | ⟨value, rest⟩⟩
      · rw [List.length_nil] at h
        omega
      · rw [List.length_singleton] at h
        omega
      · rw [List.length_cons, List.length_cons] at h
        obtain ⟨pairs, hlen, rfl⟩ := ih (show rest.length = n * 2 by omega)
        exact ⟨(key, value) :: pairs, by rw [List.length_cons, hlen], rfl⟩

theorem readPair_of_ok {key value : Frame} {t t' t'' : τ} (hkey : y t = (.ok key, t'))
    (hvalue : y t' = (.ok value, t'')) : readPair y t = (.ok (key, value), t'') := by
  show (y >>= fun key => y >>= fun value => pure (key, value)) t = _
  rw [bind_of_ok hkey, bind_of_ok hvalue]
  rfl

theorem runs_readPair : ∀ {pairs : List (Frame × Frame)} {t t' : τ},
    Runs y t (alternating pairs) t' → Runs (readPair y) t pairs t'
  | [], _, _, .nil t => .nil t
  | (_, _) :: _, _, _, .cons hkey (.cons hvalue hs) =>
      .cons (readPair_of_ok hkey hvalue) (runs_readPair hs)

/-- Gathering pairs stops where reading their keys and values does. -/
theorem gather_readPair_of_stopped (n : Nat) {items : List Frame} {t t' t'' : τ}
    {stop : Option Failure} (h : Runs y t items t') (hlen : items.length < n * 2)
    (hstop : y t' = (stopped stop, t'')) (done : List (Frame × Frame)) :
    gather (readPair y) n done t = (stopped stop, t'') := by
  have hpair : ∀ {t : τ} {n : Nat} {done : List (Frame × Frame)},
      readPair y t = (stopped stop, t'') →
        gather (readPair y) (n + 1) done t = (stopped stop, t'') := by
    intro t n done hpair
    rw [gather, hpair]
    cases stop <;> rfl
  induction n generalizing items t done with
  | zero => omega
  | succ n ih =>
      cases h with
      | nil => exact hpair (bind_of_stopped hstop)
      | cons hkey hs =>
          cases hs with
          | nil =>
              apply hpair
              show (y >>= fun key => y >>= fun value => pure (key, value)) t = _
              rw [bind_of_ok hkey]
              exact bind_of_stopped hstop
          | cons hvalue hs =>
              rw [List.length_cons, List.length_cons] at hlen
              rw [gather, readPair_of_ok hkey hvalue]
              exact ih hs (by omega) (_ :: done)

end Decoder

/-- The frame is an aggregate of the kind that is made of these elements. -/
def AggregateKind.Holds : AggregateKind → List Frame → Frame → Prop
  | .array, items, f => f = .array items
  | .set, items, f => f = .set items
  | .map, items, f => ∃ pairs, items = Grammar.alternating pairs ∧ f = .map pairs

/-- Is it an aggregate that can be read lazily? -/
def Frame.isLazy : Frame → Bool
  | .array _ | .set _ | .map _ => true
  | _ => false

namespace Decoder

open RespClient.Action Grammar

section

variable {τ : Type} [Transport τ] {d : Decoder} {element : Action τ Frame} {tag : Tag}
  {payload : Bytes} {t t' : τ}

theorem readSequence_of_null {α : Type} {x : Action τ α} {build : List α → Frame}
    (hcount : d.readCount payload = .ok none) :
    d.readSequence payload x build t = (.ok .null, t) := by
  show (accept payload (d.readCount payload) >>= _) t = _
  rw [hcount]
  rfl

theorem readSequence_of_count {α : Type} {x : Action τ α} {build : List α → Frame} {n : Nat}
    (hcount : d.readCount payload = .ok (some n)) :
    d.readSequence payload x build t = (gather x n [] >>= fun items => pure (build items)) t := by
  show (accept payload (d.readCount payload) >>= _) t = _
  rw [hcount]
  rfl

theorem readSequence_of_flaw {α : Type} {x : Action τ α} {build : List α → Frame} {flaw : Flaw}
    (hcount : d.readCount payload = .error flaw) :
    d.readSequence payload x build t = refuse flaw payload t := by
  show (accept payload (d.readCount payload) >>= _) t = _
  rw [hcount]
  rfl

variable {kind : AggregateKind} {width n : Nat} {items : List Frame}

/-- An aggregate read whole is made of the elements that were read. -/
theorem readBody_of_runs (hkind : lazyKind? tag = some (kind, width))
    (hcount : d.readCount payload = .ok (some n)) (hruns : Runs element t items t')
    (hlen : items.length = n * width) :
    ∃ f, kind.Holds items f ∧ d.readBody element tag payload t = (.ok f, t') := by
  have hsequence : ∀ build : List Frame → Frame, items.length = n →
      d.readSequence payload element build t = (.ok (build items), t') := by
    intro build hlen
    rw [readSequence_of_count hcount, ← hlen, bind_of_ok (gather_of_runs hruns [])]
    rfl
  cases tag <;> cases hkind
  · exact ⟨_, rfl, hsequence .array (by omega)⟩
  · obtain ⟨pairs, hpairs, rfl⟩ := exists_alternating n hlen
    refine ⟨_, ⟨pairs, rfl, rfl⟩, ?_⟩
    show d.readSequence payload (readPair element) .map t = _
    rw [readSequence_of_count hcount, ← hpairs,
      bind_of_ok (gather_of_runs (runs_readPair hruns) [])]
    rfl
  · exact ⟨_, rfl, hsequence .set (by omega)⟩

/-- It fails where one of its elements does. -/
theorem readBody_of_stopped {t'' : τ} {stop : Option Failure}
    (hkind : lazyKind? tag = some (kind, width)) (hcount : d.readCount payload = .ok (some n))
    (hruns : Runs element t items t') (hlen : items.length < n * width)
    (hstop : element t' = (stopped stop, t'')) :
    d.readBody element tag payload t = (stopped stop, t'') := by
  have hsequence : ∀ build : List Frame → Frame, items.length < n →
      d.readSequence payload element build t = (stopped stop, t'') := by
    intro build hlen
    rw [readSequence_of_count hcount]
    exact bind_of_stopped (gather_of_stopped hruns hlen hstop [])
  cases tag <;> cases hkind
  · exact hsequence .array (by omega)
  · show d.readSequence payload (readPair element) .map t = _
    rw [readSequence_of_count hcount]
    exact bind_of_stopped (gather_readPair_of_stopped n hruns hlen hstop [])
  · exact hsequence .set (by omega)

theorem readBody_of_null (hkind : lazyKind? tag = some (kind, width))
    (hcount : d.readCount payload = .ok none) :
    d.readBody element tag payload t = (.ok .null, t) := by
  cases tag <;> cases hkind <;> exact readSequence_of_null hcount

theorem readBody_of_flaw {flaw : Flaw} (hkind : lazyKind? tag = some (kind, width))
    (hcount : d.readCount payload = .error flaw) :
    d.readBody element tag payload t = refuse flaw payload t := by
  cases tag <;> cases hkind <;> exact readSequence_of_flaw hcount

/-- What is not read lazily is no array, set or map. -/
theorem isLazy_of_readBody {f : Frame} (hkind : lazyKind? tag = none)
    (h : d.readBody element tag payload t = (.ok f, t')) : f.isLazy = false := by
  have hscalar : IsScalar tag → f.isLazy = false := by
    intro htag
    rw [readBody_of_scalar htag, accept_eq_ok] at h
    cases readScalar_eq_ok.mp ⟨htag, h.1⟩ <;> rfl
  cases tag with
  | simple => exact hscalar .simple
  | error => exact hscalar .error
  | integer => exact hscalar .integer
  | null => exact hscalar .null
  | double => exact hscalar .double
  | boolean => exact hscalar .boolean
  | bigNumber => exact hscalar .bigNumber
  | array => cases hkind
  | map => cases hkind
  | set => cases hkind
  | bulk =>
      obtain ⟨length, t₁, -, hrest⟩ := bind_eq_ok.mp h
      cases length with
      | none =>
          cases hrest
          rfl
      | some n =>
          obtain ⟨data, t₂, -, hgive⟩ := bind_eq_ok.mp hrest
          cases hgive
          rfl
  | blobError =>
      obtain ⟨n, t₁, -, hrest⟩ := bind_eq_ok.mp h
      obtain ⟨data, t₂, -, hgive⟩ := bind_eq_ok.mp hrest
      cases hgive
      rfl
  | verbatim =>
      obtain ⟨n, t₁, -, hrest⟩ := bind_eq_ok.mp h
      obtain ⟨data, t₂, -, haccept⟩ := bind_eq_ok.mp hrest
      obtain ⟨format, text, -, -, rfl⟩ := splitVerbatim_eq_ok.mp (accept_eq_ok.mp haccept).1
      rfl
  | push =>
      obtain ⟨count, t₁, -, hrest⟩ := bind_eq_ok.mp h
      cases count with
      | none =>
          cases hrest
          rfl
      | some n =>
          obtain ⟨elements, t₂, -, hgive⟩ := bind_eq_ok.mp hrest
          cases hgive
          rfl

end

end Decoder

/-! ## Successive calls of a stream -/

namespace FrameStream

open RespClient.Action

variable {τ : Type} [Transport τ]

/-- What so many calls for the next element give, and the stream after them. -/
def calls : Nat → FrameStream τ → List (Outcome (Option Frame)) × FrameStream τ
  | 0, s => ([], s)
  | n + 1, s => ((s.next).1 :: (calls n (s.next).2).1, (calls n (s.next).2).2)

/-- An element that a call gives. -/
def given (f : Frame) : Outcome (Option Frame) := .ok (some f)

variable {d : Decoder} {kind : AggregateKind} {items : List Frame} {t t' t'' : τ}

/-! ### One call -/

theorem next_of_ok {f : Frame} (h : d.readElement t = (.ok f, t')) (n : Nat) :
    next ⟨d, kind, n + 1, t⟩ = (given f, ⟨d, kind, n, t'⟩) := by
  simp only [next, h, given]

theorem next_of_error {e : Failure} (h : d.readElement t = (.error e, t')) (n : Nat) :
    next ⟨d, kind, n + 1, t⟩ = (.error e, ⟨d, kind, 0, Transport.disconnect t'⟩) := by
  simp only [next, h, abandon]

theorem next_of_stalled (h : d.readElement t = (.stalled, t')) (n : Nat) :
    next ⟨d, kind, n + 1, t⟩ = (.stalled, ⟨d, kind, n + 1, t'⟩) := by
  simp only [next, h]

theorem next_eq_none {s s' : FrameStream τ} (h : s.next = (.ok none, s')) :
    s.remaining = 0 ∧ s' = s := by
  unfold next at h
  split at h
  · rename_i hn
    cases h
    exact ⟨hn, rfl⟩
  · split at h <;> cases h

theorem next_eq_some {s s' : FrameStream τ} {f : Frame} (h : s.next = (.ok (some f), s')) :
    s.decoder.readElement s.source = (.ok f, s'.source) ∧ s.remaining = s'.remaining + 1 ∧
      s'.decoder = s.decoder := by
  unfold next at h
  split at h
  · cases h
  · rename_i n hn
    split at h
    · rename_i g t hread
      cases h
      exact ⟨hread, hn, rfl⟩
    · cases h
    · cases h

/-! ### Many calls -/

theorem calls_of_runs (kind : AggregateKind) (h : Runs d.readElement t items t') (n k : Nat) :
    calls (items.length + k) ⟨d, kind, items.length + n, t⟩ =
      (items.map given ++ (calls k ⟨d, kind, n, t'⟩).1, (calls k ⟨d, kind, n, t'⟩).2) := by
  induction h with
  | nil t => simp
  | @cons t t' t'' f rest h _ ih =>
      rw [List.length_cons, Nat.add_right_comm, Nat.add_right_comm _ 1 n, calls, next_of_ok h, ih]
      rfl

theorem calls_of_ended (k : Nat) (t : τ) :
    calls k ⟨d, kind, 0, t⟩ = (List.replicate k (.ok none), ⟨d, kind, 0, t⟩) := by
  induction k with
  | zero => rfl
  | succ k ih =>
      show (.ok none :: (calls k ⟨d, kind, 0, t⟩).1, (calls k ⟨d, kind, 0, t⟩).2) = _
      rw [ih, List.replicate_succ]

theorem skip_of_runs (kind : AggregateKind) (h : Runs d.readElement t items t')
    (n skipped : Nat) :
    skip (items.length + n) skipped ⟨d, kind, items.length + n, t⟩ =
      skip n (skipped + items.length) ⟨d, kind, n, t'⟩ := by
  induction h generalizing skipped with
  | nil t => simp
  | @cons t t' t'' f rest h _ ih =>
      rw [List.length_cons, Nat.add_right_comm, skip, next_of_ok h]
      show skip (rest.length + n) (skipped + 1) _ = _
      rw [ih, Nat.add_assoc, Nat.add_comm 1]

/-- Skipping to the end reads every element that is left. -/
theorem skip_eq_ok {n skipped k : Nat} {s s' : FrameStream τ} (hn : s.remaining = n)
    (h : skip n skipped s = (.ok k, s')) :
    ∃ items, Runs s.decoder.readElement s.source items s'.source ∧ items.length = n ∧
      s'.remaining = 0 ∧ s'.decoder = s.decoder := by
  induction n generalizing skipped s with
  | zero =>
      cases h
      exact ⟨[], .nil _, rfl, hn, rfl⟩
  | succ n ih =>
      rw [skip] at h
      split at h
      · rename_i s₁ hnext
        have := (next_eq_none hnext).1
        omega
      · rename_i f s₁ hnext
        obtain ⟨hread, hleft, hdecoder⟩ := next_eq_some hnext
        obtain ⟨items, hruns, hlen, hend, hdecoder'⟩ := ih (by omega) h
        rw [hdecoder] at hruns
        exact ⟨f :: items, .cons hread hruns, by rw [List.length_cons, hlen], hend,
          hdecoder'.trans hdecoder⟩
      · cases h
      · cases h

/-- Call after call, the stream gives `items` and then a failure, if there is one, and
after that nothing. It ends with the transport as `t`. On the way it knows how many
elements are left, and skipping them counts them. -/
structure Delivers (s : FrameStream τ) (items : List Frame) (failure : Option Failure) (t : τ) :
    Prop where
  partway : ∀ k, k ≤ items.length → ∃ u,
    s.calls k = ((items.take k).map given, { s with remaining := s.remaining - k, source := u })
  skipped : ∀ k, k ≤ items.length →
    (s.calls k).2.drain =
      (match failure with
        | none => .ok (s.remaining - k)
        | some e => .error e, { s with remaining := 0, source := t })
  ended : ∀ k, s.calls (items.length + failure.toList.length + k) =
    (items.map given ++ (failure.toList.map .error ++ List.replicate k (.ok none)),
      { s with remaining := 0, source := t })

theorem calls_partway (kind : AggregateKind) (h : Runs d.readElement t items t') {n k : Nat}
    (hn : items.length ≤ n) (hk : k ≤ items.length) :
    ∃ u, Runs d.readElement u (items.drop k) t' ∧
      calls k ⟨d, kind, n, t⟩ = ((items.take k).map given, ⟨d, kind, n - k, u⟩) := by
  rw [← List.take_append_drop k items, runs_append] at h
  obtain ⟨u, hread, hleft⟩ := h
  have hlen : (items.take k).length = k := List.length_take_of_le hk
  have hcalls := calls_of_runs kind hread (n - k) 0
  rw [hlen, Nat.add_sub_cancel' (by omega)] at hcalls
  refine ⟨u, hleft, ?_⟩
  rw [Nat.add_zero] at hcalls
  simpa [calls] using hcalls

/-- A stream whose elements can all be read delivers them. -/
theorem delivers_of_runs (h : Runs d.readElement t items t') :
    Delivers ⟨d, kind, items.length, t⟩ items none t' where
  partway k hk := by
    obtain ⟨u, -, hcalls⟩ := calls_partway kind h (Nat.le_refl _) hk
    exact ⟨u, hcalls⟩
  skipped k hk := by
    obtain ⟨u, hleft, hcalls⟩ := calls_partway kind h (Nat.le_refl _) hk
    have hskip := skip_of_runs kind hleft 0 0
    rw [List.length_drop] at hskip
    rw [hcalls]
    simpa [drain, skip] using hskip
  ended k := by
    have hcalls := calls_of_runs kind h 0 k
    rw [calls_of_ended] at hcalls
    simpa using hcalls

/-- A stream fails where one of its elements does. -/
theorem delivers_of_error {n : Nat} {e : Failure} (h : Runs d.readElement t items t')
    (hn : items.length < n) (hstop : d.readElement t' = (.error e, t'')) :
    Delivers ⟨d, kind, n, t⟩ items (some e) (Transport.disconnect t'') where
  partway k hk := by
    obtain ⟨u, -, hcalls⟩ := calls_partway kind h hn.le hk
    exact ⟨u, hcalls⟩
  skipped k hk := by
    obtain ⟨u, hleft, hcalls⟩ := calls_partway kind h hn.le hk
    obtain ⟨m, rfl⟩ := Nat.exists_eq_add_of_lt hn
    have hskip := skip_of_runs kind hleft (m + 1) 0
    have hcount : (items.drop k).length + (m + 1) = items.length + m + 1 - k := by
      rw [List.length_drop]
      omega
    rw [hcount] at hskip
    rw [hcalls]
    show skip _ 0 _ = _
    rw [hskip, skip, next_of_error hstop]
  ended k := by
    obtain ⟨m, rfl⟩ := Nat.exists_eq_add_of_lt hn
    have hcalls := calls_of_runs kind h (m + 1) (k + 1)
    rw [calls, next_of_error hstop, calls_of_ended] at hcalls
    rw [← Nat.add_assoc] at hcalls
    simpa [Nat.add_assoc, Nat.add_comm 1] using hcalls

/-- A stream waits for ever where one of its elements does. -/
theorem calls_of_stalled {n : Nat} (h : Runs d.readElement t items t') (hn : items.length < n)
    (hstop : d.readElement t' = (.stalled, t'')) :
    calls (items.length + 1) ⟨d, kind, n, t⟩ =
      (items.map given ++ [.stalled], ⟨d, kind, n - items.length, t''⟩) := by
  obtain ⟨m, rfl⟩ := Nat.exists_eq_add_of_lt hn
  have hcalls := calls_of_runs kind h (m + 1) 1
  have hcall : calls 1 ⟨d, kind, m + 1, t'⟩ = ([.stalled], ⟨d, kind, m + 1, t''⟩) := by
    rw [calls, next_of_stalled hstop]
    rfl
  rw [hcall] at hcalls
  rw [show items.length + m + 1 - items.length = m + 1 by omega]
  exact hcalls

end FrameStream

/-! ## Both ways agree -/

namespace Decoder

open RespClient.Action Grammar FrameStream

variable {τ : Type} [Transport τ]

/-- How reading lazily begins, said of reading whole: either it comes to the same, or
an aggregate was begun, and then reading whole comes to what the stream delivers. -/
def Agrees (d : Decoder) (t : τ) : Outcome Opened × τ → Prop
  | (.error e, t') => d.decode t = (.error e, t')
  | (.stalled, t') => d.decode t = (.stalled, t')
  | (.ok (.whole f), t') => d.decode t = (.ok f, t') ∧ f.isLazy = false
  | (.ok (.stream kind n), source) =>
      match d.decode t with
      | (.ok f, t') => Transport.isConnected t' = true ∧
          ∃ items : List Frame, items.length = n ∧ kind.Holds items f ∧
            Delivers ⟨d, kind, n, source⟩ items none t'
      | (.error e, t') => Transport.isConnected t' = false ∧
          ∃ items : List Frame, items.length < n ∧ Delivers ⟨d, kind, n, source⟩ items (some e) t'
      | (.stalled, t') => ∃ items : List Frame, items.length < n ∧
          calls (items.length + 1) ⟨d, kind, n, source⟩ =
            (items.map given ++ [.stalled], ⟨d, kind, n - items.length, t'⟩)

theorem agrees_of_error {d : Decoder} {t t' : τ} {e : Failure}
    (helement : d.readElement t = (.error e, t')) (hopen : d.openElement t = (.error e, t')) :
    Agrees d t (d.openStream t) := by
  have hdecode : d.decode t = (.error e, Transport.disconnect t') := orDisconnect_of_error helement
  rw [openStream, orDisconnect_of_error hopen]
  exact hdecode

theorem agrees_of_stalled {d : Decoder} {t t' : τ} (helement : d.readElement t = (.stalled, t'))
    (hopen : d.openElement t = (.stalled, t')) : Agrees d t (d.openStream t) := by
  have hdecode : d.decode t = (.stalled, t') := orDisconnect_of_stalled helement
  rw [openStream, orDisconnect_of_stalled hopen]
  exact hdecode

theorem agrees_of_whole {d : Decoder} {t t' : τ} {f : Frame}
    (helement : d.readElement t = (.ok f, t')) (hopen : d.openElement t = (.ok (.whole f), t'))
    (hlazy : f.isLazy = false) : Agrees d t (d.openStream t) := by
  rw [openStream, orDisconnect_of_ok hopen]
  exact ⟨orDisconnect_of_ok helement, hlazy⟩

variable [Transport.Lawful τ]

theorem agrees_stream {d : Decoder} {tag : Tag} {payload : Bytes} {t source : τ}
    {kind : AggregateKind} {width n : Nat} (hheader : d.readHeader t = (.ok (tag, payload), source))
    (hkind : lazyKind? tag = some (kind, width)) (hcount : d.readCount payload = .ok (some n)) :
    Agrees d t (.ok (.stream kind (n * width)), source) := by
  have helement : d.readElement t = d.readBody d.readElement tag payload source := by
    rw [readElement_eq, bind_of_ok hheader]
  obtain ⟨items, t₁, hruns, hlen | ⟨hlen, stop, t₂, hstop⟩⟩ :=
    exists_runs d.readElement (n * width) source
  -- every element can be read
  · obtain ⟨f, hholds, hbody⟩ := readBody_of_runs hkind hcount hruns hlen
    have hdecode : d.decode t = (.ok f, t₁) := orDisconnect_of_ok (helement.trans hbody)
    obtain ⟨w, -, htakes⟩ := d.decode_sound hdecode
    unfold Agrees
    rw [hdecode]
    refine ⟨htakes.1, items, hlen, hholds, ?_⟩
    rw [← hlen]
    exact delivers_of_runs hruns
  -- one of them stops both ways of reading
  · have hbody := readBody_of_stopped hkind hcount hruns hlen hstop
    cases stop with
    | some e =>
        have hdecode : d.decode t = (.error e, Transport.disconnect t₂) :=
          orDisconnect_of_error (helement.trans hbody)
        unfold Agrees
        rw [hdecode]
        exact ⟨Transport.Lawful.isConnected_disconnect t₂, items, hlen,
          delivers_of_error hruns hlen hstop⟩
    | none =>
        have hdecode : d.decode t = (.stalled, t₂) :=
          orDisconnect_of_stalled (helement.trans hbody)
        unfold Agrees
        rw [hdecode]
        exact ⟨items, hlen, calls_of_stalled hruns hlen hstop⟩

theorem openStream_agrees (d : Decoder) (t : τ) : Agrees d t (d.openStream t) := by
  have helement := d.readElement_eq t
  have hopen := d.openElement_eq t
  rcases hheader : d.readHeader t with ⟨r, t₁⟩
  cases r with
  | error e =>
      rw [bind_of_error hheader] at helement hopen
      exact agrees_of_error helement hopen
  | stalled =>
      rw [bind_of_stalled hheader] at helement hopen
      exact agrees_of_stalled helement hopen
  | ok header =>
      obtain ⟨tag, payload⟩ := header
      rw [bind_of_ok hheader] at helement hopen
      cases hkind : lazyKind? tag with
      | none =>
          simp only [openBody, hkind] at hopen
          rcases hbody : d.readBody d.readElement tag payload t₁ with ⟨r, t₂⟩
          rw [hbody] at helement
          cases r with
          | ok f =>
              rw [bind_of_ok hbody] at hopen
              exact agrees_of_whole helement hopen (isLazy_of_readBody hkind hbody)
          | error e =>
              rw [bind_of_error hbody] at hopen
              exact agrees_of_error helement hopen
          | stalled =>
              rw [bind_of_stalled hbody] at hopen
              exact agrees_of_stalled helement hopen
      | some found =>
          obtain ⟨kind, width⟩ := found
          simp only [openBody, hkind] at hopen
          cases hcount : d.readCount payload with
          | error flaw =>
              rw [hcount] at hopen
              rw [readBody_of_flaw hkind hcount] at helement
              exact agrees_of_error helement hopen
          | ok count =>
              rw [hcount] at hopen
              cases count with
              | none =>
                  rw [readBody_of_null hkind hcount] at helement
                  exact agrees_of_whole helement hopen rfl
              | some n =>
                  rw [openStream, orDisconnect_of_ok hopen]
                  exact agrees_stream hheader hkind hcount

/-- **Reading lazily refines reading whole.** On any transport and in any state of it
both ways agree; and an array, a set or a map that is read whole is one that is read
lazily. -/
theorem openStream_refines_decode (d : Decoder) (t : τ) :
    Agrees d t (d.openStream t) ∧
      ∀ f t', d.decode t = (.ok f, t') → f.isLazy = true →
        ∃ kind n source, d.openStream t = (.ok (.stream kind n), source) := by
  have hagrees := d.openStream_agrees t
  refine ⟨hagrees, ?_⟩
  intro f t' hdecode hlazy
  rcases hopen : d.openStream t with ⟨r, source⟩
  rw [hopen] at hagrees
  match r with
  | .error e =>
      have hagrees : d.decode t = (.error e, source) := hagrees
      rw [hdecode] at hagrees
      cases hagrees
  | .stalled =>
      have hagrees : d.decode t = (.stalled, source) := hagrees
      rw [hdecode] at hagrees
      cases hagrees
  | .ok (.whole g) =>
      obtain ⟨hwhole, hg⟩ : d.decode t = (.ok g, source) ∧ g.isLazy = false := hagrees
      rw [hdecode] at hwhole
      cases hwhole
      rw [hlazy] at hg
      cases hg
  | .ok (.stream kind n) => exact ⟨kind, n, source, rfl⟩

/-- `*2 +a ?` is opened, gives its first element, and fails at the second like the
whole reply does. -/
theorem openStream_refines_decode_broken :
    (⟨.resp2, 64⟩ : Decoder).openStream
        ({ input := [42, 50, 13, 10, 43, 97, 13, 10, 63, 13, 10, 43] } : MemoryLink) =
      (.ok (.stream .array 2), { input := [43, 97, 13, 10, 63, 13, 10, 43] }) ∧
    ∃ items : List Frame, items.length < 2 ∧
      Delivers (⟨⟨.resp2, 64⟩, .array, 2, { input := [43, 97, 13, 10, 63, 13, 10, 43] }⟩ :
          FrameStream MemoryLink) items
        (some (.malformed (Flaw.unknownTag 63).message [63] "memory"))
        { input := [43], connected := false } := by
  refine ⟨rfl, ?_⟩
  have hagrees : Agrees ⟨.resp2, 64⟩
      ({ input := [42, 50, 13, 10, 43, 97, 13, 10, 63, 13, 10, 43] } : MemoryLink)
      (.ok (.stream .array 2), { input := [43, 97, 13, 10, 63, 13, 10, 43] }) :=
    (openStream_refines_decode _ _).1
  exact hagrees.2

end Decoder

end RespClient
