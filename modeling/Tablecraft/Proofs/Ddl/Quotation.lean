import Mathlib.Data.List.Basic
import Tablecraft.Ddl.Literal

namespace Tablecraft

open List

namespace Quotation

variable {q : Char} {text value rest after : List Char}

/-- Reads on behind an opening quote. Two quotes in a row stand for one, and the first quote that has no
second one ends the text. -/
def readDoubled (q : Char) : List Char → Option (List Char × List Char)
  | [] => none
  | c :: rest =>
    if c = q then
      match rest with
      | [] => some ([], [])
      | d :: after => if d = q then (readDoubled q after).map (Prod.map (q :: ·) id) else some ([], d :: after)
    else (readDoubled q rest).map (Prod.map (c :: ·) id)

theorem readDoubled_pair (q : Char) (rest : List Char) :
    readDoubled q (q :: q :: rest) = (readDoubled q rest).map (Prod.map (q :: ·) id) := by
  rw [readDoubled, if_pos rfl]
  exact if_pos rfl

theorem readDoubled_end (h : after.head? ≠ some q) : readDoubled q (q :: after) = some ([], after) := by
  cases after with
  | nil => simp [readDoubled]
  | cons d after =>
      have hd : d ≠ q := fun hd => h (congrArg some hd)
      simp [readDoubled, hd]

theorem readDoubled_cons {c : Char} (h : c ≠ q) (rest : List Char) :
    readDoubled q (c :: rest) = (readDoubled q rest).map (Prod.map (c :: ·) id) := by
  rw [readDoubled.eq_def]
  exact if_neg h

def doubled (q : Char) (text : List Char) : List Char := text.flatMap fun c => if c = q then [q, q] else [c]

theorem doubled_pair (q : Char) (rest : List Char) : doubled q (q :: rest) = q :: q :: doubled q rest := by
  simp [doubled]

theorem doubled_cons {c : Char} (h : c ≠ q) (rest : List Char) : doubled q (c :: rest) = c :: doubled q rest := by
  simp [doubled, h]

theorem doubled_eq_self (h : q ∉ text) : doubled q text = text := by
  induction text with
  | nil => rfl
  | cons c rest ih =>
      rw [mem_cons, not_or] at h
      rw [doubled_cons (Ne.symm h.1), ih h.2]

theorem length_doubled (q : Char) (text : List Char) : (doubled q text).length = text.length + text.count q := by
  induction text with
  | nil => rfl
  | cons c rest ih =>
      by_cases hc : c = q
      · subst hc
        rw [doubled_pair, count_cons_self, length_cons, length_cons, length_cons, ih]
        omega
      · rw [doubled_cons hc, count_cons_of_ne hc, length_cons, length_cons, ih]
        omega

theorem readDoubled_doubled (h : after.head? ≠ some q) :
    readDoubled q (doubled q text ++ q :: after) = some (text, after) := by
  induction text with
  | nil => exact readDoubled_end h
  | cons c rest ih =>
      by_cases hc : c = q
      · subst hc
        rw [doubled_pair, cons_append, cons_append, readDoubled_pair, ih]
        rfl
      · rw [doubled_cons hc, cons_append, readDoubled_cons hc, ih]
        rfl

/-- The reader takes what the writer writes and nothing else. -/
theorem readDoubled_eq_some_iff :
    readDoubled q text = some (value, after) ↔ text = doubled q value ++ q :: after ∧ after.head? ≠ some q := by
  refine ⟨fun h => ?_, fun ⟨ht, h⟩ => ht ▸ readDoubled_doubled h⟩
  fun_induction readDoubled q text generalizing value with
  | case1 => cases h
  | case2 =>
      cases h
      exact ⟨rfl, by simp⟩
  | case3 rest ih =>
      obtain ⟨⟨v, a⟩, hr, heq⟩ := Option.map_eq_some_iff.1 h
      cases heq
      obtain ⟨rfl, ha⟩ := ih hr
      exact ⟨by rw [doubled_pair]; rfl, ha⟩
  | case4 d rest hd =>
      cases h
      exact ⟨rfl, fun ha => hd (Option.some.inj ha)⟩
  | case5 c rest hc ih =>
      obtain ⟨⟨v, a⟩, hr, heq⟩ := Option.map_eq_some_iff.1 h
      cases heq
      obtain ⟨rfl, ha⟩ := ih hr
      exact ⟨by rw [doubled_cons hc]; rfl, ha⟩

/-- Reads on behind an opening quote. A backslash and zero stand for the null character, a backslash and any
other character for that character, and the first quote without a backslash ends the text. -/
def readEscaped : List Char → Option (List Char × List Char)
  | [] => none
  | c :: rest =>
    if c = '\\' then
      match rest with
      | [] => none
      | d :: after => (readEscaped after).map (Prod.map ((if d = '0' then '\x00' else d) :: ·) id)
    else if c = '\'' then some ([], rest)
    else (readEscaped rest).map (Prod.map (c :: ·) id)

theorem readEscaped_pair (d : Char) (rest : List Char) :
    readEscaped ('\\' :: d :: rest) =
      (readEscaped rest).map (Prod.map ((if d = '0' then '\x00' else d) :: ·) id) := by
  rw [readEscaped, if_pos rfl]

theorem readEscaped_end (rest : List Char) : readEscaped ('\'' :: rest) = some ([], rest) := by
  rw [readEscaped.eq_def]
  rfl

theorem readEscaped_cons {c : Char} (hb : c ≠ '\\') (hq : c ≠ '\'') (rest : List Char) :
    readEscaped (c :: rest) = (readEscaped rest).map (Prod.map (c :: ·) id) := by
  rw [readEscaped.eq_def]
  dsimp only
  rw [if_neg hb, if_neg hq]

/-- What stands for a character is read as that character. -/
theorem readEscaped_escapeBackslash (c : Char) (rest : List Char) :
    readEscaped (Literal.escapeBackslash c ++ rest) = (readEscaped rest).map (Prod.map (c :: ·) id) := by
  unfold Literal.escapeBackslash
  split
  · rename_i h
    have hc : c ≠ '0' := by
      rintro rfl
      simp at h
    rw [cons_append, cons_append, readEscaped_pair, if_neg hc]
    rfl
  · rename_i h
    rw [Bool.or_eq_true, Bool.or_eq_true, decide_eq_true_iff, decide_eq_true_iff, decide_eq_true_iff, not_or,
      not_or] at h
    split
    · rename_i hz
      subst hz
      exact readEscaped_pair '0' rest
    · exact readEscaped_cons h.2 h.1.1 rest

theorem readEscaped_flatMap (text after : List Char) :
    readEscaped (text.flatMap Literal.escapeBackslash ++ '\'' :: after) = some (text, after) := by
  induction text with
  | nil => exact readEscaped_end after
  | cons c rest ih =>
      rw [flatMap_cons, append_assoc, readEscaped_escapeBackslash, ih]
      rfl

end Quotation

namespace Literal

def read? (behindQuote : List Char → Option (List Char × List Char)) (text : String) : Option (String × String) :=
  match text.toList with
  | '\'' :: rest => (behindQuote rest).map (Prod.map String.ofList String.ofList)
  | _ => none

def readDoubling? (text : String) : Option (String × String) := read? (Quotation.readDoubled '\'') text

def readEscaping? (text : String) : Option (String × String) := read? Quotation.readEscaped text

theorem read?_of_toList {behindQuote : List Char → Option (List Char × List Char)} {text : String}
    {written value after : List Char} (ht : text.toList = '\'' :: written)
    (h : behindQuote written = some (value, after)) :
    read? behindQuote text = some (String.ofList value, String.ofList after) := by
  rw [read?, ht]
  exact congrArg (Option.map (Prod.map String.ofList String.ofList)) h

/-- A quoted text is one literal with that text as its value, and the reader comes out right behind it. -/
theorem read_quote (s after : String) :
    (after.toList.head? ≠ some '\'' → readDoubling? (quoteDoubling s ++ after) = some (s, after)) ∧
      readEscaping? (quoteEscaping s ++ after) = some (s, after) := by
  constructor
  · intro h
    have ht : (quoteDoubling s ++ after).toList =
        '\'' :: (Quotation.doubled '\'' s.toList ++ '\'' :: after.toList) := by
      simp [quoteDoubling, Text.expand, Quotation.doubled]
    rw [readDoubling?, read?_of_toList ht (Quotation.readDoubled_doubled h), String.ofList_toList,
      String.ofList_toList]
  · have ht : (quoteEscaping s ++ after).toList =
        '\'' :: (s.toList.flatMap escapeBackslash ++ '\'' :: after.toList) := by
      simp [quoteEscaping, Text.expand]
    rw [readEscaping?, read?_of_toList ht (Quotation.readEscaped_flatMap _ _), String.ofList_toList,
      String.ofList_toList]

theorem read_quote_mixed :
    ", 'b'".toList.head? ≠ some '\'' ∧
      quoteDoubling "'\\0\x00\\" ++ ", 'b'" = "'''\\0\x00\\', 'b'" ∧
      readDoubling? "'''\\0\x00\\', 'b'" = some ("'\\0\x00\\", ", 'b'") ∧
      quoteEscaping "'\\0\x00\\" ++ ", 'b'" = "'\\'\\\\0\\0\\\\', 'b'" ∧
      readEscaping? "'\\'\\\\0\\0\\\\', 'b'" = some ("'\\0\x00\\", ", 'b'") := by
  have hafter : ", 'b'".toList.head? ≠ some '\'' := by decide
  have hdoubling : quoteDoubling "'\\0\x00\\" ++ ", 'b'" = "'''\\0\x00\\', 'b'" := by decide +kernel
  have hescaping : quoteEscaping "'\\0\x00\\" ++ ", 'b'" = "'\\'\\\\0\\0\\\\', 'b'" := by decide +kernel
  obtain ⟨hd, he⟩ := read_quote "'\\0\x00\\" ", 'b'"
  exact ⟨hafter, hdoubling, hdoubling ▸ hd hafter, hescaping, hescaping ▸ he⟩

end Literal

end Tablecraft
