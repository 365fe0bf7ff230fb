import Mathlib.Data.List.Basic
import Tablecraft.Text.Basic

namespace Tablecraft.Text

open List

variable {p : Char → Bool} {c : Char}

theorem splitChars_eq_splitOnP (p : Char → Bool) (cs : List Char) : splitChars p cs = cs.splitOnP p := by
  induction cs with
  | nil => rfl
  | cons c rest ih =>
      rw [splitChars, splitOnP_cons_eq_if_modifyHead, ← ih]
      cases h : splitChars p rest with
      | nil => exact absurd (ih.symm.trans h) (splitOnP_ne_nil p rest)
      | cons piece pieces => rfl

theorem splitChars_ne_nil (p : Char → Bool) (cs : List Char) : splitChars p cs ≠ [] := by
  rw [splitChars_eq_splitOnP]
  exact splitOnP_ne_nil p cs

theorem splitChars_separator (h : p c = true) (rest : List Char) :
    splitChars p (c :: rest) = [] :: splitChars p rest := by
  rw [splitChars_eq_splitOnP, splitChars_eq_splitOnP, splitOnP_cons_eq_if_modifyHead, if_pos h]

theorem exists_splitChars_cons (h : p c = false) (rest : List Char) :
    ∃ piece pieces, splitChars p rest = piece :: pieces ∧ splitChars p (c :: rest) = (c :: piece) :: pieces := by
  obtain ⟨piece, pieces, hp⟩ := exists_cons_of_ne_nil (splitChars_ne_nil p rest)
  refine ⟨piece, pieces, hp, ?_⟩
  rw [splitChars_eq_splitOnP] at hp ⊢
  rw [splitOnP_cons_eq_if_modifyHead, h, hp]
  rfl

theorem exists_splitChars_append {front : List Char} (h : ∀ c ∈ front, p c = false) (rest : List Char) :
    ∃ piece pieces, splitChars p rest = piece :: pieces ∧
      splitChars p (front ++ rest) = (front ++ piece) :: pieces := by
  induction front with
  | nil =>
      obtain ⟨piece, pieces, hp⟩ := exists_cons_of_ne_nil (splitChars_ne_nil p rest)
      exact ⟨piece, pieces, hp, hp⟩
  | cons c front ih =>
      obtain ⟨hc, hfront⟩ := forall_mem_cons.1 h
      obtain ⟨piece, pieces, hp, happend⟩ := ih hfront
      obtain ⟨_, _, hj, hcons⟩ := exists_splitChars_cons hc (front ++ rest)
      obtain ⟨hpiece, hpieces⟩ := cons.inj (hj.symm.trans happend)
      exact ⟨piece, pieces, hp, by rw [cons_append, hcons, hpiece, hpieces, cons_append]⟩

theorem splitChars_append (h : p c = true) (before after : List Char) :
    splitChars p (before ++ c :: after) = splitChars p before ++ splitChars p after := by
  simp only [splitChars_eq_splitOnP]
  exact splitOnP_append_cons before after h

/-- The pieces have all characters but the separators. -/
theorem exists_mem_splitChars_iff {cs : List Char} :
    (∃ piece ∈ splitChars p cs, c ∈ piece) ↔ c ∈ cs ∧ p c = false := by
  induction cs with
  | nil => simp [splitChars]
  | cons d rest ih =>
      cases hd : p d with
      | true =>
          rw [splitChars_separator hd]
          simp only [mem_cons, exists_eq_or_imp, not_mem_nil, false_or, ih]
          constructor
          · exact fun h => ⟨.inr h.1, h.2⟩
          · rintro ⟨rfl | hc, hp⟩
            · rw [hd] at hp
              cases hp
            · exact ⟨hc, hp⟩
      | false =>
          obtain ⟨piece, pieces, hp, hcons⟩ := exists_splitChars_cons hd rest
          rw [hp] at ih
          rw [hcons]
          simp only [mem_cons, exists_eq_or_imp] at ih ⊢
          rw [or_assoc, ih]
          constructor
          · rintro (rfl | h)
            · exact ⟨.inl rfl, hd⟩
            · exact ⟨.inr h.1, h.2⟩
          · rintro ⟨rfl | hc, hp⟩
            · exact .inl rfl
            · exact .inr ⟨hc, hp⟩

end Tablecraft.Text
