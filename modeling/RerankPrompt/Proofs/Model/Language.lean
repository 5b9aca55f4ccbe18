import RerankPrompt.Model
import RerankPrompt.Proofs.Text.Occurrence

/-!
# The language of the classifier

Two searches decide whether a model needs a template, and neither looks at what the other finds. All
the same the family name and the mark of a reranker never share a character: neither holds the
character that the other starts with. So the identifiers that need one are those in which the two
pieces stand one behind the other, in either order, and whatever is added around such an identifier
leaves it one.
-/

namespace RerankPrompt.Model

/-- The text holds the two pieces one behind the other. -/
def InOrder (first second text : String) : Prop :=
  ∃ before between after : String, text = before ++ first ++ between ++ second ++ after

/-! ## Pieces in order -/

section InOrder

variable {first second text : String}

theorem inOrder_of_positions {i j : Nat} (hi : i ∈ Text.positions first.toList text.toList)
    (hj : j ∈ Text.positions second.toList text.toList) (hle : i + first.toList.length ≤ j) :
    InOrder first second text := by
  obtain ⟨before, between, after, htext, -, -⟩ := Text.exists_append_of_mem_positions hi hj hle
  refine ⟨String.ofList before, String.ofList between, String.ofList after, ?_⟩
  apply String.toList_inj.mp
  simp only [htext, String.toList_append, String.toList_ofList]

theorem InOrder.first_infix (h : InOrder first second text) : first.toList <:+: text.toList := by
  obtain ⟨before, between, after, rfl⟩ := h
  refine ⟨before.toList, between.toList ++ second.toList ++ after.toList, ?_⟩
  simp only [String.toList_append, List.append_assoc]

theorem InOrder.second_infix (h : InOrder first second text) : second.toList <:+: text.toList := by
  obtain ⟨before, between, after, rfl⟩ := h
  refine ⟨before.toList ++ first.toList ++ between.toList, after.toList, ?_⟩
  simp only [String.toList_append]

end InOrder

/-! ## Family and mark -/

theorem needsTemplate_iff {id : String} : needsTemplate id = true ↔
    family.toList <:+: id.toList ∧ ∃ mark ∈ rerankerMarks, mark.toList <:+: id.toList := by
  simp only [needsTemplate, Bool.and_eq_true, List.any_eq_true, Text.occurs_iff]

section Mark

variable {mark : String} (hmark : mark ∈ rerankerMarks)

include hmark

/-- Neither piece holds the character that the other starts with. -/
theorem exists_head?_mark : ∃ c, mark.toList.head? = some c ∧ c ∉ family.toList := by
  simp only [rerankerMarks, List.mem_cons, List.not_mem_nil, or_false] at hmark
  rcases hmark with rfl | rfl
  · exact ⟨'R', rfl, by decide⟩
  · exact ⟨'s', rfl, by decide⟩

theorem head_family_notMem_mark : 'Q' ∉ mark.toList := by
  revert mark
  decide +kernel

theorem disjoint_of_mem_positions {id : String} {i j : Nat}
    (hi : i ∈ Text.positions family.toList id.toList)
    (hj : j ∈ Text.positions mark.toList id.toList) :
    i + family.toList.length ≤ j ∨ j + mark.toList.length ≤ i := by
  obtain ⟨c, hhead, hc⟩ := exists_head?_mark hmark
  rcases Nat.le_total i j with hle | hle
  · exact Or.inl (Text.add_length_le_of_mem_positions hi hj hhead hc hle)
  · exact Or.inr (Text.add_length_le_of_mem_positions hj hi rfl (head_family_notMem_mark hmark) hle)

theorem infix_infix_iff_inOrder {id : String} :
    family.toList <:+: id.toList ∧ mark.toList <:+: id.toList ↔
      InOrder family mark id ∨ InOrder mark family id := by
  constructor
  · rintro ⟨hfamily, hoccurs⟩
    obtain ⟨i, hi⟩ := Text.exists_mem_positions hfamily
    obtain ⟨j, hj⟩ := Text.exists_mem_positions hoccurs
    rcases disjoint_of_mem_positions hmark hi hj with hle | hle
    · exact Or.inl (inOrder_of_positions hi hj hle)
    · exact Or.inr (inOrder_of_positions hj hi hle)
  · rintro (horder | horder)
    · exact ⟨horder.first_infix, horder.second_infix⟩
    · exact ⟨horder.second_infix, horder.first_infix⟩

end Mark

theorem needsTemplate_append {id : String} (h : needsTemplate id = true) (before after : String) :
    needsTemplate (before ++ id ++ after) = true := by
  have hid : id.toList <:+: (before ++ id ++ after).toList :=
    ⟨before.toList, after.toList, by simp only [String.toList_append]⟩
  obtain ⟨hfamily, mark, hmark, hoccurs⟩ := needsTemplate_iff.mp h
  exact needsTemplate_iff.mpr ⟨hfamily.trans hid, mark, hmark, hoccurs.trans hid⟩

/-- **The language of the classifier**: a model needs a template exactly if the family name and a mark
stand in its identifier one behind the other, in either order. No occurrences of the two share a
character, and what stands around them does not matter. -/
theorem needsTemplate_iff_inOrder (id : String) :
    (needsTemplate id = true ↔
      InOrder "Qwen3" "Reranker" id ∨ InOrder "Reranker" "Qwen3" id ∨
        InOrder "Qwen3" "seq-cls" id ∨ InOrder "seq-cls" "Qwen3" id) ∧
    (∀ mark ∈ ["Reranker", "seq-cls"],
      ∀ i ∈ Text.positions "Qwen3".toList id.toList, ∀ j ∈ Text.positions mark.toList id.toList,
        i + "Qwen3".toList.length ≤ j ∨ j + mark.toList.length ≤ i) ∧
    (needsTemplate id = true → ∀ before after : String,
      needsTemplate (before ++ id ++ after) = true) := by
  refine ⟨?_, fun mark hmark i hi j hj => disjoint_of_mem_positions hmark hi hj,
    needsTemplate_append⟩
  have hpieces : needsTemplate id = true ↔
      ∃ mark ∈ rerankerMarks, InOrder family mark id ∨ InOrder mark family id := by
    rw [needsTemplate_iff, ← exists_and_left]
    refine exists_congr fun mark => ?_
    rw [and_left_comm]
    exact and_congr_right fun hmark => infix_infix_iff_inOrder hmark
  rw [hpieces]
  simp only [rerankerMarks, family, List.mem_cons, List.not_mem_nil, or_false, exists_eq_or_imp,
    exists_eq_left, or_assoc]

/-- Both marks before the family name, in pieces that end as another begins, with an owner and a suffix
around them. -/
theorem needsTemplate_iff_inOrder_reversed :
    let id := "seq-clsRerankerQwen3"
    InOrder "Reranker" "Qwen3" id ∧ needsTemplate id = true ∧
      needsTemplate ("owner/Qwen" ++ id ++ "3-GGUF") = true := by
  intro id
  have horder : InOrder "Reranker" "Qwen3" id := ⟨"seq-cls", "", "", rfl⟩
  obtain ⟨hiff, -, haround⟩ := needsTemplate_iff_inOrder id
  have hneeds : needsTemplate id = true := hiff.mpr (Or.inr (Or.inl horder))
  exact ⟨horder, hneeds, haround hneeds "owner/Qwen" "3-GGUF"⟩

end RerankPrompt.Model
