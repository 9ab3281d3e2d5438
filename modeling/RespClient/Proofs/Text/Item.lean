import RespClient.Text.Blank

/-!
# Items between separators

A text with separators in it is a sequence of items, one more than there are separators. An
item is a part without a separator that reaches on either side to a separator or to the end
of the text. Where white space separates, the items that are not empty are the words.
-/

namespace RespClient.Text

variable {α : Type} {separator : α} {text item first rest : List α}

/-- The part stands in the text between separators, or at an end of it. -/
def IsItem (separator : α) (text item : List α) : Prop :=
  separator ∉ item ∧ ∃ before behind, text = before ++ item ++ behind ∧
    (before = [] ∨ ∃ front, before = front ++ [separator]) ∧
    (behind = [] ∨ ∃ rest, behind = separator :: rest)

/-- The items are what stands before the first separator and the items behind it. -/
theorem isItem_append_cons (hfirst : separator ∉ first)
    (h : item = first ∨ IsItem separator rest item) :
    IsItem separator (first ++ separator :: rest) item := by
  rcases h with rfl | ⟨hnone, before, behind, rfl, hbefore, hbehind⟩
  · exact ⟨hfirst, [], separator :: rest, rfl, .inl rfl, .inr ⟨rest, rfl⟩⟩
  · refine ⟨hnone, first ++ separator :: before, behind, by simp, .inr ?_, hbehind⟩
    rcases hbefore with rfl | ⟨front, rfl⟩
    · exact ⟨first, rfl⟩
    · exact ⟨first ++ separator :: front, by simp⟩

variable [DecidableEq α]

theorem splitOn_append_cons (first rest : List α) :
    (first ++ separator :: rest).splitOn separator =
      first.splitOn separator ++ rest.splitOn separator :=
  List.splitOnP_append_cons first rest (beq_self_eq_true separator)

theorem isItem_of_mem_splitOn (h : item ∈ text.splitOn separator) :
    IsItem separator text item := by
  induction hlength : text.length using Nat.strongRecOn generalizing text with
  | ind n ih =>
      by_cases hmem : separator ∈ text
      · obtain ⟨first, rest, rfl, hfirst⟩ := List.eq_append_cons_of_mem hmem
        rw [splitOn_append_cons, List.splitOn_eq_singleton hfirst] at h
        refine isItem_append_cons hfirst ((List.mem_cons.mp h).imp_right fun hitem => ?_)
        refine ih rest.length ?_ hitem rfl
        rw [← hlength, List.length_append, List.length_cons]
        omega
      · rw [List.splitOn_eq_singleton hmem] at h
        obtain rfl := List.mem_singleton.mp h
        exact ⟨hmem, [], [], by simp, .inl rfl, .inl rfl⟩

theorem mem_splitOn_of_isItem (h : IsItem separator text item) :
    item ∈ text.splitOn separator := by
  obtain ⟨hnone, before, behind, rfl, hbefore, hbehind⟩ := h
  have hself : item ∈ (item ++ behind).splitOn separator := by
    rcases hbehind with rfl | ⟨rest, rfl⟩
    · rw [List.append_nil, List.splitOn_eq_singleton hnone]
      exact List.mem_singleton_self item
    · rw [splitOn_append_cons, List.splitOn_eq_singleton hnone]
      exact List.mem_append_left _ (List.mem_singleton_self item)
  rcases hbefore with rfl | ⟨front, rfl⟩
  · exact hself
  · rw [List.append_assoc, List.append_assoc, List.singleton_append, splitOn_append_cons]
    exact List.mem_append_right _ hself

/-- Splitting a text at its separators gives its items. -/
theorem mem_splitOn : item ∈ text.splitOn separator ↔ IsItem separator text item :=
  ⟨isItem_of_mem_splitOn, mem_splitOn_of_isItem⟩

end RespClient.Text

namespace RespClient.Blank

/-- Words are the pieces between white space that are not empty. -/
theorem words_eq_splitOnP (cs : List Char) :
    words cs = (cs.splitOnP isBlank).filter (!·.isEmpty) := by
  suffices h : ∀ begun, wordsFrom begun cs =
      (cs.splitOnPPrepend isBlank begun).filter (!·.isEmpty) from h []
  induction cs with
  | nil =>
      intro begun
      cases begun <;> simp [wordsFrom]
  | cons c cs ih =>
      intro begun
      cases hc : isBlank c with
      | true =>
          rw [wordsFrom_cons_blank hc, List.splitOnPPrepend_cons_pos hc, ih []]
          cases begun <;> simp [wordsFrom]
      | false =>
          rw [wordsFrom, if_neg (by simp [hc]), ih, List.splitOnPPrepend_cons_neg hc]

end RespClient.Blank
