import Mathlib.Data.Set.Function
import RerankPrompt.Template
import RerankPrompt.Proofs.Text.Occurrence

/-!
# Which texts share a prompt

What stands between header and footer can be filled in as many ways as it can be cut: at a query
delimiter, and at a document delimiter that does not start before the first one ends. Where a prompt
is cut tells its texts (`eq_of_cuts_eq`), and wherever it could be cut there are texts to match
(`exists_cuts_eq`), so that the ways to fill a prompt are exactly the pairs of such delimiters.
-/

namespace RerankPrompt

namespace Prompt

/-- Where the two delimiters of a prompt start, counted from the end of the header. -/
def cuts (prompt : Prompt) : Nat × Nat :=
  (prompt.instruction.length, prompt.instruction.length + queryMark.length + prompt.query.length)

/-- The places of a query delimiter and of a document delimiter behind it. -/
def delimiterPairs (body : String) : Set (Nat × Nat) :=
  {pair | pair.1 ∈ Text.positions queryMark.toList body.toList ∧
    pair.2 ∈ Text.positions documentMark.toList body.toList ∧ pair.1 + queryMark.length ≤ pair.2}

theorem text_eq_iff {prompt : Prompt} {body : String} :
    prompt.text = header ++ body ++ footer ↔ prompt.body = body := by
  constructor
  · intro h
    have hlist := congrArg String.toList h
    rw [toList_text, String.toList_append, String.toList_append, List.append_cancel_right_eq,
      List.append_cancel_left_eq] at hlist
    exact String.toList_inj.mp hlist
  · rintro rfl
    rfl

/-! ## Cutting a body -/

theorem cuts_mem (prompt : Prompt) : prompt.cuts ∈ delimiterPairs prompt.body := by
  refine ⟨?_, ?_, Nat.le_add_right _ _⟩
  · rw [Text.mem_positions_iff_exists_append, toList_body, List.append_assoc]
    exact ⟨_, _, rfl, String.length_toList⟩
  · rw [Text.mem_positions_iff_exists_append, toList_body]
    refine ⟨prompt.instruction.toList ++ queryMark.toList ++ prompt.query.toList,
      prompt.document.toList, ?_, ?_⟩
    · simp only [List.append_assoc]
    · simp only [List.length_append, String.length_toList, cuts]

theorem exists_cuts_eq {body : String} {pair : Nat × Nat} (h : pair ∈ delimiterPairs body) :
    ∃ prompt : Prompt, prompt.body = body ∧ prompt.cuts = pair := by
  obtain ⟨a, b⟩ := pair
  obtain ⟨ha, hb, hle⟩ := h
  dsimp only at ha hb hle
  rw [← String.length_toList] at hle
  obtain ⟨instruction, query, document, hbody, rfl, rfl⟩ :=
    Text.exists_append_of_mem_positions ha hb hle
  refine ⟨⟨String.ofList instruction, String.ofList query, String.ofList document⟩, ?_, ?_⟩
  · apply String.toList_inj.mp
    simp only [toList_body, String.toList_ofList, hbody, List.append_assoc]
  · simp only [cuts, String.length_ofList, List.length_append, String.length_toList]

/-- The places of the delimiters tell where each text ends. -/
theorem eq_of_cuts_eq {prompt other : Prompt} (hbody : prompt.body = other.body)
    (hcuts : prompt.cuts = other.cuts) : prompt = other := by
  obtain ⟨instruction, query, document⟩ := prompt
  obtain ⟨instruction', query', document'⟩ := other
  simp only [cuts, Prod.mk.injEq] at hcuts
  obtain ⟨hinstruction, hquery⟩ := hcuts
  have hlist := congrArg String.toList hbody
  simp only [toList_body, List.append_assoc] at hlist
  simp only [← String.length_toList] at hinstruction hquery
  obtain ⟨hi, hrest⟩ := List.append_inj hlist hinstruction
  have hlength : query.toList.length = query'.toList.length := by omega
  obtain ⟨hq, htail⟩ := List.append_inj (List.append_cancel_left hrest) hlength
  have hd := List.append_cancel_left htail
  rw [String.toList_inj.mp hi, String.toList_inj.mp hq, String.toList_inj.mp hd]

/-! ## All ways to fill a prompt -/

theorem bijOn_cuts (body : String) :
    Set.BijOn cuts {prompt | prompt.text = header ++ body ++ footer} (delimiterPairs body) := by
  refine ⟨?_, ?_, ?_⟩
  · intro prompt hprompt
    rw [← text_eq_iff.mp hprompt]
    exact cuts_mem prompt
  · intro prompt hprompt other hother hcuts
    exact eq_of_cuts_eq ((text_eq_iff.mp hprompt).trans (text_eq_iff.mp hother).symm) hcuts
  · intro pair hpair
    obtain ⟨prompt, hbody, hcuts⟩ := exists_cuts_eq hpair
    exact ⟨prompt, text_eq_iff.mpr hbody, hcuts⟩

theorem exists_text_eq_iff {s : String} :
    (∃ prompt : Prompt, prompt.text = s) ↔
      ∃ body, s = header ++ body ++ footer ∧ (delimiterPairs body).Nonempty := by
  constructor
  · rintro ⟨prompt, rfl⟩
    exact ⟨prompt.body, rfl, prompt.cuts, cuts_mem prompt⟩
  · rintro ⟨body, rfl, pair, hpair⟩
    obtain ⟨prompt, hprompt, -⟩ := (bijOn_cuts body).surjOn hpair
    exact ⟨prompt, hprompt⟩

theorem exists_ne_text_eq_iff {prompt : Prompt} :
    (∃ other, other ≠ prompt ∧ other.text = prompt.text) ↔
      ∃ pair ∈ delimiterPairs prompt.body, pair ≠ prompt.cuts := by
  have hbij := bijOn_cuts prompt.body
  constructor
  · rintro ⟨other, hne, htext⟩
    refine ⟨other.cuts, hbij.mapsTo htext, fun hcuts => hne ?_⟩
    exact hbij.injOn htext rfl hcuts
  · rintro ⟨pair, hpair, hne⟩
    obtain ⟨other, htext, rfl⟩ := hbij.surjOn hpair
    refine ⟨other, ?_, htext⟩
    rintro rfl
    exact hne rfl

end Prompt

namespace Template

open Prompt

/-- **The ways to fill a prompt are its pairs of delimiters**: a text is a prompt exactly when
header and footer enclose such a pair; the texts that fill it correspond to its pairs, each to the
places of its own delimiters; and so other texts fill it too exactly when there is a second pair. -/
theorem bijOn_cuts_render (template : Template) :
    let render (prompt : Prompt) : String :=
      template.render prompt.query prompt.document (some prompt.instruction)
    (∀ s : String, (∃ prompt, render prompt = s) ↔
      ∃ body, s = header ++ body ++ footer ∧ (delimiterPairs body).Nonempty) ∧
    (∀ body : String,
      Set.BijOn cuts {prompt | render prompt = header ++ body ++ footer} (delimiterPairs body)) ∧
    ∀ prompt : Prompt, (∃ other, other ≠ prompt ∧ render other = render prompt) ↔
      ∃ pair ∈ delimiterPairs prompt.body, pair ≠ prompt.cuts :=
  ⟨fun _ => exists_text_eq_iff, bijOn_cuts, fun _ => exists_ne_text_eq_iff⟩

end Template

end RerankPrompt
