import RespClient.Slot.Map

/-!
# Nodes that are not known yet

Where nodes are gathered, each is taken once and in order of its first mention: the owners of
a slot map, the candidates for a new map, and the sentinels that sentinels name. Whether two
nodes are the same is a question of their addresses alone.
-/

namespace RespClient.Node

variable {a b node : Node} {known nodes : List Node}

/-- The nodes of a list that are not known yet, each once. -/
def unknown (known : List Node) : List Node → List Node
  | [] => []
  | node :: rest =>
    if known.any (·.same node) then unknown known rest
    else node :: unknown (known ++ [node]) rest

theorem unknown_cons_of_known {rest : List Node} (h : known.any (·.same node) = true) :
    unknown known (node :: rest) = unknown known rest := by
  rw [unknown, if_pos h]

theorem unknown_cons_of_not {rest : List Node} (h : known.any (·.same node) = false) :
    unknown known (node :: rest) = node :: unknown (known ++ [node]) rest := by
  rw [unknown, if_neg (by simp [h])]

theorem foldl_addOnce (known nodes : List Node) :
    nodes.foldl SlotMap.addOnce known = known ++ unknown known nodes := by
  induction nodes generalizing known with
  | nil => rw [List.foldl_nil, unknown, List.append_nil]
  | cons node rest ih =>
      rw [List.foldl_cons, SlotMap.addOnce]
      by_cases h : known.any (·.same node) = true
      · rw [if_pos h, ih, unknown_cons_of_known h]
      · have h := Bool.eq_false_iff.mpr h
        rw [if_neg (by simp [h]), ih, unknown_cons_of_not h]
        simp

/-- Nodes that are not known yet are other nodes than those that are. -/
theorem not_same_of_mem_unknown (ha : a ∈ known) (hb : b ∈ unknown known nodes) :
    a.same b = false := by
  induction nodes generalizing known with
  | nil => cases hb
  | cons node rest ih =>
      by_cases h : known.any (·.same node) = true
      · rw [unknown_cons_of_known h] at hb
        exact ih ha hb
      · have h := Bool.eq_false_iff.mpr h
        rw [unknown_cons_of_not h] at hb
        rcases List.mem_cons.mp hb with rfl | hb
        · simpa using List.any_eq_false.mp h a ha
        · exact ih (List.mem_append_left _ ha) hb

/-- No two of the nodes that are not known yet are the same. -/
theorem pairwise_unknown (known nodes : List Node) :
    (unknown known nodes).Pairwise fun a b => a.same b = false := by
  induction nodes generalizing known with
  | nil => exact List.Pairwise.nil
  | cons node rest ih =>
      by_cases h : known.any (·.same node) = true
      · rw [unknown_cons_of_known h]
        exact ih known
      · have h := Bool.eq_false_iff.mpr h
        rw [unknown_cons_of_not h, List.pairwise_cons]
        refine ⟨fun b hb => ?_, ih _⟩
        have hnode : node ∈ known ++ [node] := by simp
        exact not_same_of_mem_unknown hnode hb

theorem unknown_sublist (known nodes : List Node) : (unknown known nodes).Sublist nodes := by
  induction nodes generalizing known with
  | nil => exact .slnil
  | cons node rest ih =>
      rw [unknown]
      split
      · exact (ih known).cons node
      · exact (ih _).cons_cons node

/-- If no two nodes of the list are the same, all that are not known yet are taken. -/
theorem unknown_eq_filter (known : List Node)
    (h : nodes.Pairwise fun a b => a.same b = false) :
    unknown known nodes = nodes.filter fun node => !known.any (·.same node) := by
  induction nodes generalizing known with
  | nil => rfl
  | cons first rest ih =>
      obtain ⟨hfirst, hrest⟩ := List.pairwise_cons.mp h
      by_cases hknown : known.any (·.same first) = true
      · rw [unknown_cons_of_known hknown, List.filter_cons_of_neg (by simp [hknown]), ih known hrest]
      · have hknown := Bool.eq_false_iff.mpr hknown
        rw [unknown_cons_of_not hknown, List.filter_cons_of_pos (by simp [hknown]), ih _ hrest]
        congr 1
        apply List.filter_congr
        intro node hnode
        simp [hfirst node hnode]

end RespClient.Node

namespace RespClient.SlotMap

/-- The owners of a map are those of its ranges, each once. -/
theorem nodes_eq (m : SlotMap) : m.nodes = Node.unknown [] (m.ranges.map (·.node)) := by
  have hfold : m.nodes = (m.ranges.map (·.node)).foldl addOnce [] := by
    rw [nodes, List.foldl_map]
  rw [hfold, Node.foldl_addOnce, List.nil_append]

theorem pairwise_nodes (m : SlotMap) : m.nodes.Pairwise fun a b => a.same b = false := by
  rw [nodes_eq]
  exact Node.pairwise_unknown _ _

end RespClient.SlotMap
