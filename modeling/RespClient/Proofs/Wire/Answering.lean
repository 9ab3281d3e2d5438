import RespClient.Proofs.Wire.Depth

/-!
# Links that answer

A link answers if no read and no write on it ever waits for good, whatever was done on it
before. Decoding ends on such a link: the depth to which the decoder reads nested frames is
never used up, so nothing but a read can keep it waiting.
-/

namespace RespClient

namespace Transport

variable {τ : Type} [Transport τ]

/-- Reads and writes end on links of some kind, and leave them links of that kind. -/
structure Responsive (P : τ → Prop) : Prop where
  write (bytes : Bytes) : Action.Ends P (write bytes)
  readLine : Action.Ends P readLine
  readBytes (n : Nat) : Action.Ends P (readBytes n)
  disconnect (t : τ) : P t → P (disconnect t)

/-- Whatever is done on the link ends, and so does whatever is done on it after that. -/
def Answering (t : τ) : Prop :=
  ∃ P : τ → Prop, Responsive P ∧ P t

theorem responsive_answering : Responsive (Answering : τ → Prop) where
  write bytes t := by
    rintro ⟨P, hP, ht⟩
    obtain ⟨hends, hkeeps⟩ := hP.write bytes ht
    exact ⟨hends, P, hP, hkeeps⟩
  readLine t := by
    rintro ⟨P, hP, ht⟩
    obtain ⟨hends, hkeeps⟩ := hP.readLine ht
    exact ⟨hends, P, hP, hkeeps⟩
  readBytes n t := by
    rintro ⟨P, hP, ht⟩
    obtain ⟨hends, hkeeps⟩ := hP.readBytes n ht
    exact ⟨hends, P, hP, hkeeps⟩
  disconnect t := by
    rintro ⟨P, hP, ht⟩
    exact ⟨P, hP, hP.disconnect t ht⟩

end Transport

/-! ## Links in memory -/

namespace MemoryLink

open Transport

/-- A link in memory that reports the end of its input answers. -/
theorem answering_of_closed {l : MemoryLink} (hl : l.atEnd = .closed) : Answering l := by
  have hexhausted : ∀ {α : Type} {l : MemoryLink}, l.atEnd = .closed →
      (l.exhausted : Outcome α) ≠ .stalled := by
    intro α l hl
    rw [exhausted, hl]
    rintro ⟨⟩
  refine ⟨fun l => l.atEnd = .closed, ⟨?_, ?_, ?_, fun _ hl => hl⟩, hl⟩
  · intro bytes l hl
    show Action.EndsAt _ (MemoryLink.write bytes) l
    unfold Action.EndsAt MemoryLink.write
    split
    · exact ⟨by rintro ⟨⟩, hl⟩
    · exact ⟨by rintro ⟨⟩, hl⟩
  · intro l hl
    show Action.EndsAt _ MemoryLink.readLine l
    unfold Action.EndsAt MemoryLink.readLine
    split
    · exact ⟨by rintro ⟨⟩, hl⟩
    · split
      · exact ⟨hexhausted hl, hl⟩
      · dsimp only
        split
        · exact ⟨by rintro ⟨⟩, hl⟩
        · exact ⟨by rintro ⟨⟩, hl⟩
  · intro n l hl
    show Action.EndsAt _ (MemoryLink.readBytes n) l
    unfold Action.EndsAt MemoryLink.readBytes
    split
    · exact ⟨by rintro ⟨⟩, hl⟩
    · dsimp only
      split
      · exact ⟨hexhausted hl, hl⟩
      · exact ⟨by rintro ⟨⟩, hl⟩

end MemoryLink

/-! ## Decoding -/

namespace Decoder

open Transport RespClient.Action

variable {τ α β : Type} [Transport τ] {d : Decoder}

theorem ends_refuse {P : τ → Prop} (flaw : Flaw) (payload : Bytes) :
    Ends P (refuse flaw payload : Action τ α) :=
  fun _ ht => endsAt_of_error rfl ht

theorem ends_accept {P : τ → Prop} (payload : Bytes) (r : Except Flaw α) :
    Ends P (accept payload r) := by
  cases r with
  | ok a => exact .give a
  | error flaw => exact ends_refuse flaw payload

theorem ends_readHeader (d : Decoder) :
    Ends Answering (d.readHeader : Action τ (Tag × Bytes)) := by
  refine Ends.bind responsive_answering.readLine fun line => ?_
  cases line with
  | nil => exact ends_refuse _ _
  | cons byte payload =>
      simp only
      split
      · exact .give _
      · exact ends_refuse _ _

theorem ends_readBlob (n : Nat) : Ends Answering (readBlob n : Action τ Bytes) := by
  refine Ends.bind (responsive_answering.readBytes _) fun data => ?_
  simp only
  split
  · exact .give _
  · exact ends_refuse _ _

/-- The action ends on every link that answers and has at most so many bytes ahead. -/
def EndsWithin (k : Nat) (x : Action τ α) : Prop :=
  ∀ ⦃t⦄, Answering t → pending t ≤ k → EndsAt Answering x t

namespace EndsWithin

variable {k : Nat} {x : Action τ α}

theorem of_ends (hx : Ends Answering x) : EndsWithin k x :=
  fun _ ht _ => hx ht

/-- What follows an action that takes bytes off the link finds no more of them ahead. -/
theorem bind {f : α → Action τ β} (hx : EndsWithin k x) (hshrinks : Shrinks x)
    (hf : ∀ a, EndsWithin k (f a)) : EndsWithin k (x >>= f) :=
  fun _ ht hk => (hx ht hk).bind fun a _ h ht' => hf a ht' (Nat.le_trans (hshrinks h) hk)

theorem gather (hx : EndsWithin k x) (hshrinks : Shrinks x) (n : Nat) (done : List α) :
    EndsWithin k (gather x n done) := by
  induction n generalizing done with
  | zero =>
      intro t ht _
      exact endsAt_of_ok rfl ht
  | succ n ih =>
      intro t ht hk
      rcases (hx ht hk).cases with ⟨a, t', h, ht'⟩ | ⟨e, t', h, ht'⟩
      · have hrest := ih (a :: done) ht' (Nat.le_trans (hshrinks h) hk)
        rwa [EndsAt, Decoder.gather, h]
      · exact endsAt_of_error (by rw [Decoder.gather, h]) ht'

theorem readPair {element : Action τ Frame} (h : EndsWithin k element) (hshrinks : Shrinks element) :
    EndsWithin k (readPair element) :=
  h.bind hshrinks fun _ => h.bind hshrinks fun _ => of_ends (.give _)

theorem readSequence (hx : EndsWithin k x) (hshrinks : Shrinks x) (payload : Bytes)
    (build : List α → Frame) : EndsWithin k (d.readSequence payload x build) := by
  have haccept : Shrinks (accept payload (d.readCount payload) : Action τ (Option Nat)) := by
    intro t count t' h
    obtain ⟨-, rfl⟩ := accept_eq_ok.mp h
    exact Nat.le_refl _
  refine bind (of_ends (ends_accept payload _)) haccept fun count => ?_
  cases count with
  | none => exact of_ends (.give _)
  | some n =>
      intro t ht hk
      exact (hx.gather hshrinks n [] ht hk).bind fun items _ _ ht' => Ends.give _ ht'

/-- What follows a header is read to its end if its elements are. -/
theorem readBody {element : Action τ Frame} (h : EndsWithin k element) (hshrinks : Shrinks element)
    (tag : Tag) (payload : Bytes) : EndsWithin k (d.readBody element tag payload) := by
  have hscalar : ∀ {tag : Tag}, IsScalar tag → EndsWithin k (d.readBody element tag payload) := by
    intro tag htag
    rw [readBody_of_scalar htag]
    exact of_ends (ends_accept payload _)
  have hblob : ∀ (n : Nat) (f : Bytes → Action τ Frame), (∀ data, Ends Answering (f data)) →
      Ends Answering (readBlob n >>= f) := fun n f hf => (ends_readBlob n).bind hf
  cases tag with
  | bulk =>
      refine of_ends ((ends_accept payload _).bind fun length => ?_)
      cases length with
      | none => exact .give _
      | some n => exact hblob n _ fun _ => .give _
  | blobError => exact of_ends ((ends_accept payload _).bind fun n => hblob n _ fun _ => .give _)
  | verbatim =>
      exact of_ends ((ends_accept payload _).bind fun n => hblob n _ fun _ => ends_accept _ _)
  | array => exact h.readSequence hshrinks payload _
  | set => exact h.readSequence hshrinks payload _
  | push => exact h.readSequence hshrinks payload _
  | map => exact (h.readPair hshrinks).readSequence (readPair_shrinks hshrinks) payload _
  | simple => exact hscalar .simple
  | error => exact hscalar .error
  | integer => exact hscalar .integer
  | null => exact hscalar .null
  | double => exact hscalar .double
  | boolean => exact hscalar .boolean
  | bigNumber => exact hscalar .bigNumber

variable [Lawful τ]

/-- Reading to a depth that the bytes ahead do not exceed ends. -/
theorem readFrame (d : Decoder) (depth : Nat) :
    EndsWithin depth (d.readFrame depth : Action τ Frame) := by
  induction depth with
  | zero =>
      intro t ht hk
      refine (d.ends_readHeader ht).bind fun header t' h _ => ?_
      -- there is no header without a byte ahead
      have hshorter := readHeader_shorter h
      omega
  | succ depth ih =>
      intro t ht hk
      refine (d.ends_readHeader ht).bind fun header t' h ht' => ?_
      have hshorter := readHeader_shorter h
      exact ih.readBody (d.readFrame_sound depth).shrinks _ _ ht' (by omega)

end EndsWithin

/-- Decoding ends on a link that answers. -/
theorem ends_decode [Lawful τ] (d : Decoder) : Ends Answering (d.decode : Action τ Frame) := by
  intro t ht
  have hread : EndsAt Answering d.readElement t :=
    EndsWithin.readFrame d (pending t) ht (Nat.le_refl _)
  rcases hread.cases with ⟨frame, t', h, ht'⟩ | ⟨e, t', h, ht'⟩
  · exact endsAt_of_ok (orDisconnect_of_ok h) ht'
  · exact endsAt_of_error (orDisconnect_of_error h) (responsive_answering.disconnect t' ht')

end Decoder

end RespClient
