import RespClient.Proofs.Wire.Soundness
import RespClient.Wire.FrameStream

/-!
# Nesting has no limit

The decoder reads nested frames to the depth that the bytes ahead allow. Every level
takes a header off the transport before the next one begins, so this depth is never
used up, and reading an element is reading its header and then its parts as elements
of their own.
-/

namespace RespClient.Decoder

open Transport Grammar Encoding RespClient.Action

variable {τ : Type} [Transport τ] {α : Type} {d : Decoder}

/-- Two actions that run alike while at most `k` bytes are ahead. -/
def Agree (k : Nat) (x y : Action τ α) : Prop :=
  ∀ t, pending t ≤ k → x t = y t

/-- An action that leaves no more bytes ahead than there were. -/
def Shrinks (x : Action τ α) : Prop :=
  ∀ ⦃t a t'⦄, x t = (.ok a, t') → pending t' ≤ pending t

theorem gather_congr {k : Nat} {x y : Action τ α} (hagree : Agree k x y) (hshrinks : Shrinks x)
    (n : Nat) (done : List α) : Agree k (gather x n done) (gather y n done) := by
  induction n generalizing done with
  | zero => intro t _; rfl
  | succ n ih =>
      intro t ht
      rw [gather, gather, ← hagree t ht]
      split
      · rename_i a t' hx
        exact ih (a :: done) t' (Nat.le_trans (hshrinks hx) ht)
      · rfl
      · rfl

theorem readPair_congr {k : Nat} {x y : Action τ Frame} (hagree : Agree k x y)
    (hshrinks : Shrinks x) : Agree k (readPair x) (readPair y) := by
  intro t ht
  show (x >>= fun key => x >>= fun value => pure (key, value)) t =
    (y >>= fun key => y >>= fun value => pure (key, value)) t
  rw [bind_apply, bind_apply, ← hagree t ht]
  split
  · rename_i key t' hx
    rw [bind_apply, bind_apply, ← hagree t' (Nat.le_trans (hshrinks hx) ht)]
  · rfl
  · rfl

theorem readSequence_congr {k : Nat} {x y : Action τ α} (hagree : Agree k x y)
    (hshrinks : Shrinks x) (payload : Bytes) (build : List α → Frame) :
    Agree k (d.readSequence payload x build) (d.readSequence payload y build) := by
  intro t ht
  apply bind_eq_bind
  intro count t' hcount
  obtain ⟨-, rfl⟩ := accept_eq_ok.mp hcount
  cases count with
  | none => rfl
  | some n =>
      show (gather x n [] >>= fun items => pure (build items)) t' =
        (gather y n [] >>= fun items => pure (build items)) t'
      rw [bind_apply, bind_apply, gather_congr hagree hshrinks n [] t' ht]

theorem readPair_shrinks {x : Action τ Frame} (hshrinks : Shrinks x) : Shrinks (readPair x) := by
  intro t pair t' h
  obtain ⟨key, t₁, hkey, hrest⟩ := bind_eq_ok.mp h
  obtain ⟨value, t₂, hvalue, hgive⟩ := bind_eq_ok.mp hrest
  cases hgive
  exact Nat.le_trans (hshrinks hvalue) (hshrinks hkey)

/-- What follows a header is read alike if its elements are. -/
theorem readBody_congr {k : Nat} {x y : Action τ Frame} (hagree : Agree k x y)
    (hshrinks : Shrinks x) (tag : Tag) (payload : Bytes) :
    Agree k (d.readBody x tag payload) (d.readBody y tag payload) := by
  cases tag with
  | array => exact readSequence_congr hagree hshrinks payload .array
  | set => exact readSequence_congr hagree hshrinks payload .set
  | push => exact readSequence_congr hagree hshrinks payload .push
  | map =>
      exact readSequence_congr (readPair_congr hagree hshrinks) (readPair_shrinks hshrinks)
        payload .map
  | _ => intro t _; rfl

variable [Lawful τ]

theorem Sound.shrinks {x : Action τ α} {R : α → Bytes → Prop}
    (h : Sound x R) : Shrinks x := by
  intro t a t' hx
  obtain ⟨w, -, htakes⟩ := h hx
  rw [htakes.pending_eq]
  exact Nat.le_add_left _ _

/-- A header takes at least its tag and its line end. -/
theorem readHeader_shorter {t t' : τ} {header : Tag × Bytes}
    (h : d.readHeader t = (.ok header, t')) : pending t' + 3 ≤ pending t := by
  obtain ⟨tag, payload⟩ := header
  obtain ⟨-, -, htakes⟩ := readHeader_takes h
  rw [htakes.pending_eq]
  simp [line, Bytes.crlf]
  omega

/-- Without a byte ahead there is no header, and the depth does not matter. -/
theorem readFrame_zero_eq {t : τ} (hempty : pending t = 0) (n : Nat) :
    d.readFrame 0 t = d.readFrame n t := by
  cases n with
  | zero => rfl
  | succ n =>
      apply bind_eq_bind
      intro header t' hheader
      have := readHeader_shorter hheader
      omega

/-- Any two depths that the bytes ahead do not exceed give the same. -/
theorem readFrame_eq_readFrame {depth n : Nat} {t : τ} (hdepth : pending t ≤ depth)
    (hn : pending t ≤ n) : d.readFrame depth t = d.readFrame n t := by
  induction depth generalizing n t with
  | zero => exact readFrame_zero_eq (by omega) n
  | succ depth ih =>
      cases n with
      | zero => exact (readFrame_zero_eq (by omega) (depth + 1)).symm
      | succ n =>
          apply bind_eq_bind
          intro header t' hheader
          have hshorter := readHeader_shorter hheader
          -- behind the header fewer bytes are ahead than either depth allows for
          have hagree : Agree (pending t') (d.readFrame depth : Action τ Frame) (d.readFrame n) :=
            fun t'' ht'' => ih (by omega) (by omega)
          exact readBody_congr hagree (d.readFrame_sound depth).shrinks header.1 header.2 t'
            (Nat.le_refl _)

theorem readElement_eq_readFrame {n : Nat} {t : τ} (hn : pending t ≤ n) :
    d.readElement t = d.readFrame n t :=
  readFrame_eq_readFrame (Nat.le_refl _) hn

/-- Behind a header, nested frames are read as elements of their own. -/
theorem readBody_readFrame {depth : Nat} {t : τ} (hdepth : pending t ≤ depth) (tag : Tag)
    (payload : Bytes) :
    d.readBody (d.readFrame depth) tag payload t = d.readBody d.readElement tag payload t := by
  have hagree : Agree (pending t) (d.readFrame depth : Action τ Frame) d.readElement :=
    fun t' ht' => (readElement_eq_readFrame (Nat.le_trans ht' hdepth)).symm
  exact readBody_congr hagree (d.readFrame_sound depth).shrinks tag payload t (Nat.le_refl _)

/-- **Reading an element.** Its header comes first, then its parts, which are
elements again. -/
theorem readElement_eq (d : Decoder) (t : τ) :
    d.readElement t =
      (d.readHeader >>= fun header => d.readBody d.readElement header.1 header.2) t := by
  rw [readElement_eq_readFrame (Nat.le_succ (pending t))]
  apply bind_eq_bind
  intro header t' hheader
  have hshorter := readHeader_shorter hheader
  exact readBody_readFrame (by omega) header.1 header.2

/-- What reading lazily does behind a header. -/
def openBody (d : Decoder) (header : Tag × Bytes) : Action τ Opened :=
  match lazyKind? header.1 with
  | none => d.readBody d.readElement header.1 header.2 >>= fun frame => pure (.whole frame)
  | some (kind, width) => accept header.2 (d.readCount header.2) >>= fun count =>
      match count with
      | none => pure (.whole .null)
      | some n => pure (.stream kind (n * width))

theorem openElement_eq (d : Decoder) (t : τ) :
    d.openElement t = (d.readHeader >>= d.openBody) t := by
  unfold openElement
  apply bind_eq_bind
  intro header t' hheader
  have hshorter := readHeader_shorter hheader
  obtain ⟨tag, payload⟩ := header
  unfold openBody
  dsimp only
  cases hkind : lazyKind? tag with
  | some kind => rfl
  | none =>
      show (d.readBody (d.readFrame (pending t - 1)) tag payload >>=
        fun frame => pure (Opened.whole frame)) t' = _
      rw [bind_apply, readBody_readFrame (by omega)]
      rfl

end RespClient.Decoder
