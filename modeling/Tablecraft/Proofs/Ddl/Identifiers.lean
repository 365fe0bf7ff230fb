import Tablecraft.Proofs.Ddl.Quotation
import Tablecraft.Proofs.Text.Splitting

namespace Tablecraft

open List

namespace Quotation

variable {q : Char} {text part after : List Char} {parts : List (List Char)}

def quoted (q : Char) (part : List Char) : List Char := q :: (doubled q part ++ [q])

def readQuoted? (q : Char) : List Char → Option (List Char × List Char)
  | [] => none
  | c :: rest => if c = q then readDoubled q rest else none

theorem readQuoted?_eq_some_iff :
    readQuoted? q text = some (part, after) ↔ text = quoted q part ++ after ∧ after.head? ≠ some q := by
  cases text with
  | nil => simp [readQuoted?, quoted]
  | cons c rest =>
      by_cases hc : c = q
      · subst hc
        rw [readQuoted?, if_pos rfl, readDoubled_eq_some_iff]
        simp [quoted]
      · simp [readQuoted?, quoted, hc]

def readPath? (q : Char) (text : List Char) : Option (List (List Char)) :=
  match _h : readQuoted? q text with
  | none => none
  | some (part, []) => some [part]
  | some (part, c :: rest) => if c = '.' then (readPath? q rest).map (part :: ·) else none
termination_by text.length
decreasing_by
  have hlength := congrArg length (readQuoted?_eq_some_iff.1 _h).1
  simp only [quoted, length_append, length_cons] at hlength
  omega

theorem readPath?_last (h : readQuoted? q text = some (part, [])) : readPath? q text = some [part] := by
  rw [readPath?]
  split <;> simp_all

theorem readPath?_dot {rest : List Char} (h : readQuoted? q text = some (part, '.' :: rest)) :
    readPath? q text = (readPath? q rest).map (part :: ·) := by
  rw [readPath?]
  split <;> simp_all

def writePath (q : Char) (parts : List (List Char)) : List Char := ['.'].intercalate (parts.map (quoted q))

theorem writePath_cons (h : parts ≠ []) :
    writePath q (part :: parts) = quoted q part ++ '.' :: writePath q parts := by
  rw [writePath, map_cons, intercalate_cons_of_ne_nil (map_eq_nil_iff.not.2 h), append_assoc]
  rfl

/-- Like one identifier, a path is read from what is written for it and from nothing else. -/
theorem readPath?_eq_some_iff (hq : q ≠ '.') :
    readPath? q text = some parts ↔ parts ≠ [] ∧ text = writePath q parts := by
  constructor
  · intro h
    fun_induction readPath? q text generalizing parts with
    | case1 => cases h
    | case2 text part hr =>
        cases h
        obtain ⟨rfl, -⟩ := readQuoted?_eq_some_iff.1 hr
        exact ⟨by simp, by simp [writePath]⟩
    | case3 text part rest hr ih =>
        obtain ⟨tail, htail, rfl⟩ := Option.map_eq_some_iff.1 h
        obtain ⟨rfl, -⟩ := readQuoted?_eq_some_iff.1 hr
        obtain ⟨hne, rfl⟩ := ih htail
        exact ⟨by simp, (writePath_cons hne).symm⟩
    | case4 => cases h
  · rintro ⟨hne, rfl⟩
    induction parts with
    | nil => exact absurd rfl hne
    | cons part rest ih =>
        by_cases hrest : rest = []
        · subst hrest
          exact readPath?_last (readQuoted?_eq_some_iff.2 ⟨by simp [writePath], by simp⟩)
        · have hr : readQuoted? q (writePath q (part :: rest)) = some (part, '.' :: writePath q rest) :=
            readQuoted?_eq_some_iff.2 ⟨writePath_cons hrest, by simpa using hq.symm⟩
          rw [readPath?_dot hr, ih hrest]
          rfl

/-- Every dotted part between quotes, whatever it has in it. -/
def wrapped (q : Char) (text : List Char) : List Char :=
  q :: (text.flatMap (fun c => if c = '.' then [q, '.', q] else [c]) ++ [q])

theorem wrapped_eq (q : Char) (text : List Char) :
    wrapped q text = ['.'].intercalate ((Text.splitChars (· = '.') text).map fun part => q :: (part ++ [q])) := by
  induction text with
  | nil => simp [wrapped, Text.splitChars]
  | cons c rest ih =>
      by_cases hc : c = '.'
      · subst hc
        rw [Text.splitChars_separator (by simp), map_cons, intercalate_cons_of_ne_nil, ← ih]
        · simp [wrapped]
        · simpa using Text.splitChars_ne_nil _ rest
      · obtain ⟨piece, pieces, hp, hcons⟩ := Text.exists_splitChars_cons (p := (· = '.')) (by simpa using hc) rest
        rw [hp, map_cons, intercalate_cons_cons_left] at ih
        rw [hcons, map_cons, intercalate_cons_cons_left, cons_append, intercalate_cons_cons_left,
          ← (cons.inj ih).2]
        simp [wrapped, hc]

/-- Writing quotes twice makes a path longer by one character for each quote in it. -/
theorem length_writePath (q : Char) (parts : List (List Char)) :
    (writePath q parts).length =
      (['.'].intercalate (parts.map fun part => q :: (part ++ [q]))).length + count q parts.flatten := by
  induction parts with
  | nil => rfl
  | cons part rest ih =>
      by_cases hrest : rest = []
      · subst hrest
        simp [writePath, quoted, length_doubled]
        omega
      · rw [writePath_cons hrest, map_cons, intercalate_cons_of_ne_nil (map_eq_nil_iff.not.2 hrest)]
        simp only [quoted, flatten_cons, count_append, length_append, length_cons, length_nil, length_doubled, ih]
        omega

theorem wrapped_eq_writePath_iff (hq : q ≠ '.') :
    wrapped q text = writePath q (Text.splitChars (· = '.') text) ↔ q ∉ text := by
  have hmem (c : Char) : (∃ part ∈ Text.splitChars (· = '.') text, c ∈ part) ↔ c ∈ text ∧ c ≠ '.' := by
    rw [Text.exists_mem_splitChars_iff, decide_eq_false_iff_not]
  constructor
  · intro h hm
    obtain ⟨part, hpart, hqp⟩ := (hmem q).2 ⟨hm, hq⟩
    -- A quote in a part is written twice in the path, which would be longer then.
    have hlength := length_writePath q (Text.splitChars (· = '.') text)
    rw [← h, ← wrapped_eq] at hlength
    have hcount : count q (Text.splitChars (· = '.') text).flatten = 0 := by omega
    exact count_eq_zero.1 hcount (mem_flatten_of_mem hpart hqp)
  · intro h
    rw [wrapped_eq, writePath]
    congr 1
    refine map_congr_left fun part hpart => ?_
    have hqp : q ∉ part := fun hqp => h ((hmem q).1 ⟨part, hpart, hqp⟩).1
    rw [quoted, doubled_eq_self hqp]

end Quotation

namespace Platform

open Quotation

/-- The parts of a quoted identifier by the rule of the dialect, if that is what the text is. -/
def readIdentifier? (p : Platform) (text : String) : Option (List String) :=
  (readPath? p.identifierQuote text.toList).map (List.map String.ofList)

theorem identifierQuote_ne_dot (p : Platform) : p.identifierQuote ≠ '.' := by
  unfold identifierQuote
  split <;> decide

theorem toList_quoteIdentifier {p : Platform} (h : p.settings.quoteIdentifiers = true) (text : String) :
    (p.quoteIdentifier text).toList = wrapped p.identifierQuote text.toList := by
  rw [quoteIdentifier, if_pos h]
  simp [Text.expand, wrapped]

/-- A quoted name is read as its dotted parts exactly if the quote of the dialect is not in the name. -/
theorem readIdentifier_quoteIdentifier_iff {p : Platform} (h : p.settings.quoteIdentifiers = true)
    (text : String) :
    p.readIdentifier? (p.quoteIdentifier text) = some (Text.split (· = '.') text) ↔
      p.identifierQuote ∉ text.toList := by
  have hinj : Function.Injective (List.map String.ofList) := map_injective_iff.2 fun _ _ => String.ofList_inj.1
  rw [readIdentifier?, Text.split, toList_quoteIdentifier h, ← Option.map_some,
    (Option.map_injective hinj).eq_iff, readPath?_eq_some_iff p.identifierQuote_ne_dot,
    wrapped_eq_writePath_iff p.identifierQuote_ne_dot]
  exact and_iff_right (Text.splitChars_ne_nil _ _)

theorem readIdentifier_quoteIdentifier_dotted :
    ∃ p : Platform, p.dialect = .mysql ∧ p.settings.quoteIdentifiers = true ∧
      p.quoteIdentifier "archive..a\"b" = "\x60archive\x60.\x60\x60.\x60a\"b\x60" ∧
      p.readIdentifier? (p.quoteIdentifier "archive..a\"b") = some ["archive", "", "a\"b"] := by
  refine ⟨{ dialect := .mysql }, rfl, rfl, by decide +kernel, ?_⟩
  exact (readIdentifier_quoteIdentifier_iff rfl "archive..a\"b").2 (by decide +kernel)

/-- The quote of the dialect within a name is read as the end of an identifier. -/
theorem exists_misread_identifier :
    ∃ (p : Platform) (text : String), p.settings.quoteIdentifiers = true ∧
      p.quoteIdentifier text = "\"a\"b\"" ∧ Text.split (· = '.') text = ["a\"b"] ∧
      p.readIdentifier? (p.quoteIdentifier text) ≠ some (Text.split (· = '.') text) :=
  ⟨{}, "a\"b", by decide +kernel⟩

end Platform

end Tablecraft
