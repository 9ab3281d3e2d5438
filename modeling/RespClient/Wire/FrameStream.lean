import RespClient.Wire.Decoding

/-!
# Reading one element at a time

An array, a map or a set can be read lazily. The open stream holds the transport
until it ends: when every element was read, or when the rest is skipped, or when
it is given up, which disconnects the transport because elements are still on
their way. Keys and values of a map are elements of their own.
-/

namespace RespClient

/-- The aggregates that can be read lazily. -/
inductive AggregateKind where
  | array
  | map
  | set
  deriving DecidableEq, Repr

/-- An open stream over a transport. -/
structure FrameStream (τ : Type) where
  decoder : Decoder
  kind : AggregateKind
  /-- The elements not yet read. -/
  remaining : Nat
  source : τ

/-- What reading lazily begins with. -/
inductive Opened where
  /-- The reply could not be read lazily and was read whole. -/
  | whole (frame : Frame)
  /-- An aggregate with so many elements begins. -/
  | stream (kind : AggregateKind) (remaining : Nat)

namespace Decoder

variable {τ : Type} [Transport τ]

/-- The lazy aggregate that a tag begins, and how many elements each counted item
of it has. -/
def lazyKind? : Tag → Option (AggregateKind × Nat)
  | .array => some (.array, 1)
  | .set => some (.set, 1)
  | .map => some (.map, 2)
  | _ => none

/-- Reads a header, and the whole reply unless an aggregate begins. -/
def openElement (d : Decoder) : Action τ Opened := fun t =>
  let depth := Transport.pending t
  (do
    let (tag, payload) ← d.readHeader
    match lazyKind? tag with
    | none =>
      let frame ← d.readBody (d.readFrame (depth - 1)) tag payload
      pure (.whole frame)
    | some (kind, width) =>
      match ← accept payload (d.readCount payload) with
      | none => pure (.whole .null)
      | some n => pure (.stream kind (n * width)) : Action τ Opened) t

/-- Begins to read a reply lazily. -/
def openStream (d : Decoder) : Action τ Opened :=
  orDisconnect d.openElement

end Decoder

namespace FrameStream

variable {τ : Type} [Transport τ]

/-- Gives the transport up. -/
def abandon (s : FrameStream τ) : FrameStream τ :=
  { s with remaining := 0, source := Transport.disconnect s.source }

/-- Reads the next element; there is none once all were read. After a failure the
stream is at its end. -/
def next : Action (FrameStream τ) (Option Frame) := fun s =>
  match s.remaining with
  | 0 => (.ok none, s)
  | n + 1 =>
    match s.decoder.readElement s.source with
    | (.ok frame, t) => (.ok (some frame), { s with remaining := n, source := t })
    | (.error e, t) => (.error e, abandon { s with source := t })
    | (.stalled, t) => (.stalled, { s with source := t })

/-- Reads on for at most `n` elements, and counts them on top of `skipped`. -/
def skip : Nat → Nat → Action (FrameStream τ) Nat
  | 0, skipped, s => (.ok skipped, s)
  | n + 1, skipped, s =>
    match next s with
    | (.ok none, s) => (.ok skipped, s)
    | (.ok (some _), s) => skip n (skipped + 1) s
    | (.error e, s) => (.error e, s)
    | (.stalled, s) => (.stalled, s)

/-- Reads and drops the elements that are left, and counts them. -/
def drain : Action (FrameStream τ) Nat := fun s =>
  skip s.remaining 0 s

/-- Gives up the elements that are left. -/
def close (s : FrameStream τ) : τ :=
  Transport.disconnect s.source

/-- Ends the stream; elements that are left are given up. -/
def drop (s : FrameStream τ) : τ :=
  if 0 < s.remaining then s.close else s.source

end FrameStream

end RespClient
