import RespClient.Slot.Map

/-!
# Keys with one tag

A tag is found by two searches and cut out by the positions that they give. It is what stands
between the first opening brace and the closing brace nearest behind it, and it alone decides
the slot of its key, so that keys with one tag have one owner in every slot map.
-/

namespace RespClient.Slot

variable {key tag other front rest : Bytes} {brace : UInt8}

/-- The key has the tag: it stands between the first opening brace and a closing brace, is not
empty and has no closing brace in it. -/
def HasTag (key tag : Bytes) : Prop :=
  ∃ before behind, key = before ++ opening :: (tag ++ closing :: behind) ∧ opening ∉ before ∧
    tag ≠ [] ∧ closing ∉ tag

/-- Nothing in the key can be a tag: it has no opening brace, or behind the first one there is
no closing brace, or one at once. -/
def Bare (key : Bytes) : Prop :=
  opening ∉ key ∨ ∃ before rest, key = before ++ opening :: rest ∧ opening ∉ before ∧
    (closing ∉ rest ∨ ∃ behind, rest = closing :: behind)

/-! ## Searching for a brace -/

theorem findIdx?_of_notMem (h : brace ∉ key) : key.findIdx? (· == brace) = none := by
  refine List.findIdx?_eq_none_iff.mpr fun b hb => ?_
  rw [beq_eq_false_iff_ne]
  rintro rfl
  exact h hb

theorem findIdx?_append_cons (h : brace ∉ front) (rest : Bytes) :
    (front ++ brace :: rest).findIdx? (· == brace) = some front.length := by
  rw [List.findIdx?_append, findIdx?_of_notMem h, List.findIdx?_cons,
    if_pos (beq_self_eq_true brace)]
  simp

/-- What is behind the first brace does not depend on how the key is taken apart. -/
theorem rest_unique {front' rest' : Bytes} (hfront : brace ∉ front) (hfront' : brace ∉ front')
    (h : front ++ brace :: rest = front' ++ brace :: rest') : rest = rest' := by
  have hfound := findIdx?_append_cons hfront rest
  rw [h, findIdx?_append_cons hfront'] at hfound
  exact (List.cons.inj (List.append_inj h (Option.some.inj hfound).symm).2).2

/-! ## The tag -/

theorem drop_append_cons (front rest : Bytes) (brace : UInt8) :
    (front ++ brace :: rest).drop (front.length + 1) = rest := by
  rw [← List.drop_drop, List.drop_left, List.drop_one, List.tail_cons]

/-- Without an opening brace the whole key counts. -/
theorem hashed_of_notMem (h : opening ∉ key) : hashed key = key := by
  simp only [hashed, findIdx?_of_notMem h]

theorem hashed_of_unclosed (hfront : opening ∉ front) (hrest : closing ∉ rest) :
    hashed (front ++ opening :: rest) = front ++ opening :: rest := by
  simp only [hashed, findIdx?_append_cons hfront, drop_append_cons, findIdx?_of_notMem hrest]

/-- Behind the first opening brace the nearest closing brace decides. -/
theorem hashed_of_closed (hfront : opening ∉ front) (htag : closing ∉ tag) (behind : Bytes) :
    hashed (front ++ opening :: (tag ++ closing :: behind)) =
      if 0 < tag.length then tag else front ++ opening :: (tag ++ closing :: behind) := by
  simp only [hashed, findIdx?_append_cons hfront, drop_append_cons, findIdx?_append_cons htag,
    List.take_left]

theorem hashed_of_hasTag (h : HasTag key tag) : hashed key = tag := by
  obtain ⟨before, behind, rfl, hbefore, hne, hclosing⟩ := h
  rw [hashed_of_closed hbefore hclosing, if_pos (List.length_pos_iff.mpr hne)]

theorem hasTag_or_bare (key : Bytes) : (∃ tag, HasTag key tag) ∨ Bare key := by
  by_cases hopening : opening ∈ key
  · obtain ⟨before, rest, rfl, hbefore⟩ := List.eq_append_cons_of_mem hopening
    by_cases hclosing : closing ∈ rest
    · obtain ⟨tag, behind, rfl, htag⟩ := List.eq_append_cons_of_mem hclosing
      cases tag with
      | nil => exact .inr (.inr ⟨before, _, rfl, hbefore, .inr ⟨behind, rfl⟩⟩)
      | cons b tag => exact .inl ⟨b :: tag, before, behind, rfl, hbefore, by simp, htag⟩
    · exact .inr (.inr ⟨before, rest, rfl, hbefore, .inl hclosing⟩)
  · exact .inr (.inl hopening)

theorem Bare.hashed_eq (h : Bare key) : hashed key = key := by
  rcases h with hopening | ⟨before, rest, rfl, hbefore, hclosing | ⟨behind, rfl⟩⟩
  · exact hashed_of_notMem hopening
  · exact hashed_of_unclosed hbefore hclosing
  · exact hashed_of_closed hbefore List.not_mem_nil behind

theorem HasTag.not_bare (h : HasTag key tag) : ¬Bare key := by
  obtain ⟨before, behind, rfl, hbefore, hne, hclosing⟩ := h
  rintro (hopening | ⟨front, rest, hkey, hfront, hrest⟩)
  · exact hopening (by simp)
  · obtain rfl := rest_unique hbefore hfront hkey
    rcases hrest with hnone | ⟨more, hmore⟩
    · exact hnone (by simp)
    · obtain ⟨b, tag, rfl⟩ := List.exists_cons_of_ne_nil hne
      obtain ⟨rfl, -⟩ := List.cons.inj hmore
      exact hclosing List.mem_cons_self

theorem bare_iff : Bare key ↔ ∀ tag, ¬HasTag key tag := by
  constructor
  · intro h tag htag
    exact htag.not_bare h
  · intro hnone
    rcases hasTag_or_bare key with ⟨tag, htag⟩ | h
    · exact absurd htag (hnone tag)
    · exact h

/-- A tag is hashed as a whole: it has no closing brace. -/
theorem HasTag.hashed_self (h : HasTag key tag) : hashed tag = tag := by
  obtain ⟨-, -, -, -, -, hclosing⟩ := h
  apply Bare.hashed_eq
  rw [bare_iff]
  intro inner hinner
  obtain ⟨before, behind, rfl, -⟩ := hinner
  exact hclosing (by simp)

/-! ## The slot -/

/-- The slot of a key is that of its tag, or of the whole key if it has none. -/
structure ByTag (key : Bytes) : Prop where
  tagged : ∀ tag, HasTag key tag →
    ofKey key = ofKey tag ∧ ofKey tag = (crc16 tag).toNat % count
  untagged : (∀ tag, ¬HasTag key tag) → ofKey key = (crc16 key).toNat % count
  /-- There are three ways to have no tag. -/
  bare : (∀ tag, ¬HasTag key tag) ↔ Bare key
  part : hashed key <:+: key
  idempotent : hashed (hashed key) = hashed key
  bounded : ofKey key < count
  /-- Keys with one tag have one owner, or none has, in every slot map. -/
  together : ∀ tag other, HasTag key tag → HasTag other tag →
    ∀ m : SlotMap, m.nodeFor key = m.nodeFor other

theorem ofKey_of_hasTag (h : HasTag key tag) :
    ofKey key = ofKey tag ∧ ofKey tag = (crc16 tag).toNat % count := by
  rw [ofKey, ofKey, hashed_of_hasTag h, h.hashed_self]
  exact ⟨rfl, rfl⟩

/-- **The tag alone decides the slot.** What is hashed is the tag of the key if it has one, and
else the whole key; it is one piece of the key, and hashing it in its own right changes
nothing. -/
theorem ofKey_byTag (key : Bytes) : ByTag key := by
  have hcases := hasTag_or_bare key
  constructor
  · intro tag htag
    exact ofKey_of_hasTag htag
  · intro hnone
    rw [ofKey, (bare_iff.mpr hnone).hashed_eq]
  · exact bare_iff.symm
  · rcases hcases with ⟨tag, htag⟩ | hbare
    · rw [hashed_of_hasTag htag]
      obtain ⟨before, behind, rfl, -⟩ := htag
      exact ⟨before ++ [opening], closing :: behind, by simp⟩
    · refine ⟨[], [], ?_⟩
      rw [hbare.hashed_eq, List.nil_append, List.append_nil]
  · rcases hcases with ⟨tag, htag⟩ | hbare
    · rw [hashed_of_hasTag htag, htag.hashed_self]
    · rw [hbare.hashed_eq, hbare.hashed_eq]
  · exact Nat.mod_lt _ (by decide)
  · intro tag other htag hother m
    rw [SlotMap.nodeFor, SlotMap.nodeFor, (ofKey_of_hasTag htag).1, (ofKey_of_hasTag hother).1]

/-- Braces inside a tag, a second tag and an empty one. -/
example : hashed (Utf8.encode "\x7b\x7ba\x7d\x7d\x7bb\x7d") = Utf8.encode "\x7ba" ∧
    hashed (Utf8.encode "a\x7b\x7d\x7bb\x7d") = Utf8.encode "a\x7b\x7d\x7bb\x7d" := by
  decide +kernel

end RespClient.Slot
