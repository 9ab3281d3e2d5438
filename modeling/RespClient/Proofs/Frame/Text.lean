import RespClient.Frame.Basic

/-!
# Frames that say a text

A text comes as a status line, a bulk string or a verbatim string, whose bytes are read with
U+FFFD for every part that is no UTF-8. No other frame says a text.
-/

namespace RespClient.Frame

/-- The frame says the text. -/
inductive Says : Frame → String → Prop
  | simple (payload : Bytes) : Says (.simple payload) (Utf8.lossy payload)
  | bulk (payload : Bytes) : Says (.bulk payload) (Utf8.lossy payload)
  | verbatim (format payload : Bytes) : Says (.verbatim format payload) (Utf8.lossy payload)

/-- Reading a text gives what the frame says. -/
theorem asText_eq_some {frame : Frame} {text : String} :
    frame.asText = some text ↔ frame.Says text := by
  constructor
  · intro h
    obtain ⟨payload, hbytes, rfl⟩ := Option.map_eq_some_iff.mp h
    cases frame <;> cases hbytes
    · exact .simple payload
    · exact .bulk payload
    · exact .verbatim _ payload
  · rintro (payload | payload | ⟨format, payload⟩) <;> rfl

end RespClient.Frame
