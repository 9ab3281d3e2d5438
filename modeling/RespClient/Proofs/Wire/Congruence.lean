import RespClient.Proofs.Wire.Soundness

/-!
# One decoder beside another

A decoder is put together from few steps: it gives a value, goes on with it, refuses a
payload, reads a line, reads bytes. A relation between actions that holds of these steps, each
beside itself, and passes from the parts of a sequence to the sequence, holds of whole replies.
The two decoders may differ, and so may their transports, as far as the relation holds of what
they take for a header, a length and a count. Where it holds only of reads up to some size, it is
enough that the decoders ask for no more.
-/

namespace RespClient.Decoder

open Transport

variable {τ υ : Type} [Transport τ] [Transport υ]

/-- A relation between actions that holds of the steps of a decoder behind a header and of
their sequences. Bytes may be read in some sizes only. -/
structure Steps (Θ : (α : Type) → Action τ α → Action υ α → Prop)
    (size : Nat → Prop := fun _ => True) : Prop where
  give {α : Type} (a : α) : Θ α (Action.give a) (Action.give a)
  bind {α β : Type} {x : Action τ α} {y : Action υ α} {f : α → Action τ β}
    {g : α → Action υ β} : Θ α x y → (∀ a, Θ β (f a) (g a)) → Θ β (x >>= f) (y >>= g)
  stall {α : Type} : Θ α Action.stall Action.stall
  refuse {α : Type} (flaw : Flaw) (payload : Bytes) :
    Θ α (refuse flaw payload) (refuse flaw payload)
  readBytes {n : Nat} (hn : size n) : Θ Bytes (Transport.readBytes n) (Transport.readBytes n)

/-- A relation between actions that holds of all steps of a decoder and of their sequences. -/
structure Congruence (Θ : (α : Type) → Action τ α → Action υ α → Prop)
    (size : Nat → Prop := fun _ => True) : Prop extends Steps Θ size where
  readLine : Θ Bytes Transport.readLine Transport.readLine

/-- The relation holds of what two decoders take for a header, a length and a count. Behind a
length so many bytes and a line end are of a size in which bytes may be read. -/
structure Compares (Θ : (α : Type) → Action τ α → Action υ α → Prop) (d d' : Decoder)
    (size : Nat → Prop := fun _ => True) : Prop where
  header : Θ (Tag × Bytes) d.readHeader d'.readHeader
  length {α : Type} (payload : Bytes) {f : Option Nat → Action τ α} {g : Option Nat → Action υ α}
    (hnone : Θ α (f none) (g none)) (hsome : ∀ n, size (n + 2) → Θ α (f (some n)) (g (some n))) :
    Θ α (accept payload (d.readLength payload) >>= f) (accept payload (d'.readLength payload) >>= g)
  required {α : Type} (payload : Bytes) {f : Nat → Action τ α} {g : Nat → Action υ α}
    (h : ∀ n, size (n + 2) → Θ α (f n) (g n)) :
    Θ α (accept payload (d.readRequiredLength payload) >>= f)
      (accept payload (d'.readRequiredLength payload) >>= g)
  count (payload : Bytes) :
    Θ (Option Nat) (accept payload (d.readCount payload)) (accept payload (d'.readCount payload))

variable {Θ : (α : Type) → Action τ α → Action υ α → Prop} {size : Nat → Prop} {d d' : Decoder}
  {α : Type}

namespace Steps

theorem accept (h : Steps Θ size) (payload : Bytes) (r : Except Flaw α) :
    Θ α (accept payload r) (accept payload r) := by
  cases r with
  | ok a => exact h.give a
  | error flaw => exact h.refuse flaw payload

theorem readBlob (h : Steps Θ size) {n : Nat} (hn : size (n + 2)) :
    Θ Bytes (readBlob n) (readBlob n) := by
  refine h.bind (h.readBytes hn) fun data => ?_
  simp only
  split
  · exact h.give _
  · exact h.refuse _ _

theorem gather (h : Steps Θ size) {x : Action τ α} {y : Action υ α} (hxy : Θ α x y) (n : Nat)
    (done : List α) : Θ (List α) (gather x n done) (gather y n done) := by
  induction n generalizing done with
  | zero => exact h.give done.reverse
  | succ n ih => exact h.bind hxy fun a => ih (a :: done)

theorem readPair (h : Steps Θ size) {x : Action τ Frame} {y : Action υ Frame}
    (hxy : Θ Frame x y) : Θ (Frame × Frame) (readPair x) (readPair y) :=
  h.bind hxy fun _ => h.bind hxy fun _ => h.give _

theorem readSequence (h : Steps Θ size) (hd : Compares Θ d d' size) {x : Action τ α}
    {y : Action υ α} (hxy : Θ α x y) (payload : Bytes) (build : List α → Frame) :
    Θ Frame (d.readSequence payload x build) (d'.readSequence payload y build) := by
  refine h.bind (hd.count payload) fun count => ?_
  cases count with
  | none => exact h.give _
  | some n => exact h.bind (h.gather hxy n []) fun _ => h.give _

/-- The relation passes from the elements to what follows a header. -/
theorem readBody (h : Steps Θ size) (hd : Compares Θ d d' size) {x : Action τ Frame}
    {y : Action υ Frame} (hxy : Θ Frame x y) (tag : Tag) (payload : Bytes) :
    Θ Frame (d.readBody x tag payload) (d'.readBody y tag payload) := by
  have hscalar : ∀ {tag : Tag}, IsScalar tag →
      Θ Frame (d.readBody x tag payload) (d'.readBody y tag payload) := by
    intro tag htag
    rw [readBody_of_scalar htag, readBody_of_scalar htag]
    exact h.accept payload _
  cases tag with
  | bulk =>
      refine hd.length payload (h.give _) fun n hn => ?_
      exact h.bind (h.readBlob hn) fun _ => h.give _
  | blobError =>
      exact hd.required payload fun n hn => h.bind (h.readBlob hn) fun _ => h.give _
  | verbatim =>
      exact hd.required payload fun n hn => h.bind (h.readBlob hn) fun data => h.accept data _
  | array => exact h.readSequence hd hxy payload _
  | set => exact h.readSequence hd hxy payload _
  | push => exact h.readSequence hd hxy payload _
  | map => exact h.readSequence hd (h.readPair hxy) payload _
  | simple => exact hscalar .simple
  | error => exact hscalar .error
  | integer => exact hscalar .integer
  | null => exact hscalar .null
  | double => exact hscalar .double
  | boolean => exact hscalar .boolean
  | bigNumber => exact hscalar .bigNumber

/-- **The relation holds of whole frames**, to any depth. -/
theorem readFrame (h : Steps Θ size) (hd : Compares Θ d d' size) (depth : Nat) :
    Θ Frame (d.readFrame depth) (d'.readFrame depth) := by
  induction depth with
  | zero => exact h.bind hd.header fun _ => h.stall
  | succ depth ih => exact h.bind hd.header fun header => h.readBody hd ih header.1 header.2

end Steps

/-- A decoder compares with itself if the relation holds of its header and of reads up to its
limit. -/
theorem Steps.compares (h : Steps Θ size) (hsize : ∀ n, n ≤ d.maxFrameSize → size (n + 2))
    (hheader : Θ (Tag × Bytes) d.readHeader d.readHeader) : Compares Θ d d size where
  header := hheader
  length payload _ _ hnone hsome := by
    rcases hread : d.readLength payload with flaw | _ | n
    · exact h.refuse flaw payload
    · exact hnone
    · exact hsome n (hsize n (readLength_eq_some.mp hread).2.1)
  required payload _ _ hrest := by
    rcases hread : d.readRequiredLength payload with flaw | n
    · exact h.refuse flaw payload
    · exact hrest n (hsize n (readLength_eq_some.mp (readRequiredLength_eq_ok.mp hread)).2.1)
  count payload := h.accept payload _

/-- A header is read from a line. -/
theorem Congruence.compares (h : Congruence Θ size) (d : Decoder)
    (hsize : ∀ n, n ≤ d.maxFrameSize → size (n + 2)) : Compares Θ d d size := by
  refine h.toSteps.compares hsize (h.bind h.readLine fun line => ?_)
  cases line with
  | nil => exact h.refuse _ _
  | cons byte payload =>
      simp only
      split
      · exact h.give _
      · exact h.refuse _ _

/-- A relation that holds of reads of any size holds of the frames of any decoder. -/
theorem Congruence.frame (h : Congruence Θ) (d : Decoder) (depth : Nat) :
    Θ Frame (d.readFrame depth) (d.readFrame depth) :=
  h.readFrame (h.compares d fun _ _ => trivial) depth

end RespClient.Decoder
