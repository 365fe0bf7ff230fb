import Tablecraft.Ddl.Printer
import Tablecraft.Proofs.Text.Splitting

namespace Tablecraft

namespace Text

def lines (s : String) : List String := split (· = '\n') s

theorem lines_append (s t : String) : lines (s ++ "\n" ++ t) = lines s ++ lines t := by
  have hlist : (s ++ "\n" ++ t).toList = s.toList ++ '\n' :: t.toList := by simp
  rw [lines, split, hlist, splitChars_append (by simp), List.map_append]
  rfl

theorem lines_prepend (front s : String) (h : '\n' ∉ front.toList) :
    ∃ first rest, lines s = first :: rest ∧ lines (front ++ s) = (front ++ first) :: rest := by
  have hfront : ∀ c ∈ front.toList, decide (c = '\n') = false := fun c hc =>
    decide_eq_false fun hn => h (hn ▸ hc)
  obtain ⟨piece, pieces, hp, happend⟩ := exists_splitChars_append hfront s.toList
  refine ⟨String.ofList piece, pieces.map String.ofList, by rw [lines, split, hp, List.map_cons], ?_⟩
  rw [lines, split, String.toList_append, happend, List.map_cons, String.ofList_append, String.ofList_toList]

theorem concat_cons (s : String) (parts : List String) : concat (s :: parts) = s ++ concat parts := by
  have hfold (front : String) : parts.foldl (· ++ ·) front = front ++ parts.foldl (· ++ ·) "" := by
    induction parts generalizing front with
    | nil => exact (String.append_empty).symm
    | cons part rest ih =>
        rw [List.foldl_cons, List.foldl_cons, ih, ih ("" ++ part), String.empty_append, String.append_assoc]
  rw [concat, List.foldl_cons, hfold, String.empty_append]
  rfl

def isComment (line : String) : Bool := "--".toList.isPrefixOf line.toList

def codeLines (s : String) : List String := (lines s).filter (!isComment ·)

def strayLines (s : String) : List String := (lines s).tail.filter (!isComment ·)

theorem codeLines_append (s t : String) : codeLines (s ++ "\n" ++ t) = codeLines s ++ codeLines t := by
  rw [codeLines, lines_append, List.filter_append]
  rfl

theorem codeLines_comment (s : String) : codeLines ("-- " ++ s) = strayLines s := by
  obtain ⟨first, rest, hs, hfront⟩ := lines_prepend "-- " s (by decide)
  rw [codeLines, strayLines, hs, hfront, List.tail_cons, List.filter_cons_of_neg]
  simp [isComment]

end Text

open Text

def Statement.unremarked : Statement → Statement
  | .createTable t => .createTable { t with remark := none }
  | s => s

/-- Where the statement may have a remark, what that has outside comments. -/
def Statement.stray? : Statement → Option (List String)
  | .createTable t => some ((t.remark.map fun text => strayLines (text ++ " ")).getD [])
  | _ => none

theorem Statement.isSome_stray?_unremarked (s : Statement) : s.unremarked.stray?.isSome = s.stray?.isSome := by
  cases s <;> rfl

namespace Platform

variable {p : Platform}

def code (p : Platform) (s : Statement) : List String := (codeLines (p.statementText s)).tail

def OpensLine (text : String) : Prop := ∃ rest, text = "\n" ++ rest

theorem OpensLine.append {text : String} (h : OpensLine text) (rest : String) : OpensLine (text ++ rest) := by
  obtain ⟨inner, rfl⟩ := h
  exact ⟨inner ++ rest, String.append_assoc⟩

theorem opensLine_linefeed : OpensLine "\n" := ⟨"", rfl⟩

theorem opensLine_command (text : String) : OpensLine (command text) := (opensLine_linefeed.append text).append _

theorem opensLine_commentBlock (rulePrefix text : String) : OpensLine (commentBlock rulePrefix text) :=
  ((((opensLine_linefeed.append _).append _).append _).append _).append _ |>.append _

theorem opensLine_statementText (p : Platform) (s : Statement) : OpensLine (p.statementText s) := by
  cases s with
  | heading table =>
      rw [statementText, headingText]
      split <;> exact opensLine_commentBlock _ _
  | dropTable table =>
      rw [statementText, dropTableText]
      split <;> exact opensLine_command _
  | dropIndex name table =>
      rw [statementText, dropIndexText]
      split <;> exact opensLine_command _
  | dropForeignKey table name =>
      rw [statementText, dropForeignKeyText]
      split <;> exact opensLine_command _
  | dropPrimaryKey table name =>
      rw [statementText, dropPrimaryKeyText]
      split <;> exact opensLine_command _
  | renameTable source target =>
      rw [statementText, renameTableText]
      split <;> exact opensLine_command _
  | addColumn table clause =>
      rw [statementText, addColumnText]
      split <;> exact opensLine_command _
  | createTable definition =>
      exact ((((((opensLine_linefeed.append _).append _).append _).append _).append _).append _).append _
  | saveRows | restoreRows =>
      exact (((opensLine_command _).append _).append _).append _
  | _ => exact opensLine_command _

theorem exists_body (p : Platform) (s : Statement) :
    ∃ body, p.statementText s = "\n" ++ body ∧ p.code s = codeLines body := by
  obtain ⟨body, hbody⟩ := opensLine_statementText p s
  have hempty : codeLines ("" ++ "\n" ++ body) = "" :: codeLines body := codeLines_append "" body
  rw [String.empty_append] at hempty
  exact ⟨body, hbody, by rw [code, hbody, hempty, List.tail_cons]⟩

theorem codeLines_append_scriptText (front : String) (script : Script) :
    codeLines (front ++ p.scriptText script) = codeLines front ++ script.flatMap p.code := by
  induction script generalizing front with
  | nil =>
      rw [List.flatMap_nil, List.append_nil]
      exact congrArg codeLines String.append_empty
  | cons s rest ih =>
      -- The line feed that opens the statement ends the last line in front of it.
      obtain ⟨body, hbody, hcode⟩ := exists_body p s
      have hscript : p.scriptText (s :: rest) = p.statementText s ++ p.scriptText rest := concat_cons _ _
      rw [hscript, hbody, String.append_assoc, ← String.append_assoc, codeLines_append, ih,
        List.flatMap_cons, hcode]

theorem codeLines_scriptText (p : Platform) (script : Script) :
    codeLines (p.scriptText script) = "" :: script.flatMap p.code := by
  have h := codeLines_append_scriptText (p := p) "" script
  rwa [String.empty_append] at h

theorem code_of_body {s : Statement} {body : String} (h : p.statementText s = "\n" ++ body) :
    p.code s = codeLines body := by
  obtain ⟨body', hbody, hcode⟩ := exists_body p s
  rw [hcode, String.append_right_inj _ |>.1 (hbody.symm.trans h)]

def definitionText (p : Platform) (t : TableDefinition) : String :=
  "CREATE TABLE " ++ p.quoteIdentifier t.table ++ "\n" ++
    block (t.items.map p.itemText) ++ Text.concat (t.options.map (" " ++ ·)) ++ ";\n"

theorem tableText_eq (p : Platform) (t : TableDefinition) :
    p.tableText t = "\n" ++ ((t.remark.map remarkText).getD "" ++ p.definitionText t) := by
  have hassoc (a b c d e f g h : String) :
      a ++ b ++ c ++ d ++ e ++ f ++ g ++ h = a ++ (b ++ (c ++ d ++ e ++ f ++ g ++ h)) := by
    simp only [String.append_assoc]
  exact hassoc ..

/-- A statement shows what strays from its remark, and what it shows without one. -/
theorem code_eq (p : Platform) (s : Statement) : p.code s = s.stray?.getD [] ++ p.code s.unremarked := by
  cases s with
  | createTable t =>
      have hcode : p.code (.createTable t) =
          codeLines ((t.remark.map remarkText).getD "" ++ p.definitionText t) :=
        code_of_body (p.tableText_eq t)
      have hbare : p.code (.createTable { t with remark := none }) = codeLines ("" ++ p.definitionText t) :=
        code_of_body (p.tableText_eq { t with remark := none })
      rw [String.empty_append] at hbare
      rw [Statement.stray?, Option.getD_some, Statement.unremarked, hcode, hbare]
      cases t.remark with
      | none =>
          rw [Option.map_none, Option.map_none, Option.getD_none, Option.getD_none, String.empty_append,
            List.nil_append]
      | some text =>
          have hremark : remarkText text = "-- " ++ (text ++ " ") ++ "\n" := by
            simp only [remarkText, String.append_assoc]
            rfl
          rw [Option.map_some, Option.map_some, Option.getD_some, Option.getD_some, hremark, codeLines_append,
            codeLines_comment]
  | _ => simp only [Statement.stray?, Option.getD_none, Statement.unremarked, List.nil_append]

variable {script script' : Script}

/-- Scripts that are the same without remarks show the same if the same strays from their remarks, one by one.
-/
theorem flatMap_code_congr (h : script.map Statement.unremarked = script'.map Statement.unremarked)
    (hstray : script.filterMap Statement.stray? = script'.filterMap Statement.stray?) :
    script.flatMap p.code = script'.flatMap p.code := by
  induction script generalizing script' with
  | nil =>
      rw [List.map_nil, eq_comm, List.map_eq_nil_iff] at h
      rw [h]
  | cons s rest ih =>
      cases script' with
      | nil => cases h
      | cons s' rest' =>
          obtain ⟨hs, hrest⟩ := List.cons.inj h
          have hsome : s.stray?.isSome = s'.stray?.isSome := by
            rw [← s.isSome_stray?_unremarked, hs, s'.isSome_stray?_unremarked]
          rw [List.flatMap_cons, List.flatMap_cons, code_eq, code_eq p s', hs]
          cases hl : s.stray? with
          | none =>
              rw [hl, Option.isSome_none, eq_comm, Option.isSome_eq_false_iff, Option.isNone_iff_eq_none] at hsome
              rw [List.filterMap_cons_none hl, List.filterMap_cons_none hsome] at hstray
              rw [hsome, ih hrest hstray]
          | some lines =>
              rw [hl, Option.isSome_some, eq_comm, Option.isSome_iff_exists] at hsome
              obtain ⟨lines', hl'⟩ := hsome
              rw [List.filterMap_cons_some hl, List.filterMap_cons_some hl'] at hstray
              obtain ⟨rfl, hstrays⟩ := List.cons.inj hstray
              rw [hl', ih hrest hstrays]

theorem length_flatMap_code (p : Platform) (script : Script) : (script.flatMap p.code).length =
    (script.filterMap Statement.stray?).flatten.length +
      ((script.map Statement.unremarked).flatMap p.code).length := by
  induction script with
  | nil => rfl
  | cons s rest ih =>
      rw [List.flatMap_cons, List.length_append, ih, code_eq, List.length_append, List.map_cons,
        List.flatMap_cons, List.length_append]
      cases hl : s.stray? with
      | none =>
          rw [List.filterMap_cons_none hl, Option.getD_none, List.length_nil]
          omega
      | some lines =>
          rw [List.filterMap_cons_some hl, Option.getD_some, List.flatten_cons, List.length_append]
          omega

theorem flatMap_code_of_quiet (hquiet : (script.filterMap Statement.stray?).flatten = []) :
    script.flatMap p.code = (script.map Statement.unremarked).flatMap p.code := by
  rw [List.flatMap_map]
  refine List.flatMap_congr fun s hs => ?_
  have hnil : s.stray?.getD [] = [] := by
    cases hl : s.stray? with
    | none => rfl
    | some lines => exact List.flatten_eq_nil_iff.1 hquiet lines (List.mem_filterMap.2 ⟨s, hs, hl⟩)
  rw [code_eq, hnil, List.nil_append]

/-- Next to a script from whose remarks nothing strays, one that is the same without remarks shows nothing
else exactly if nothing strays there either. -/
theorem codeLines_scriptText_eq_iff (h : script.map Statement.unremarked = script'.map Statement.unremarked)
    (hquiet : (script'.filterMap Statement.stray?).flatten = []) :
    codeLines (p.scriptText script) = codeLines (p.scriptText script') ↔
      (script.filterMap Statement.stray?).flatten = [] := by
  rw [codeLines_scriptText, codeLines_scriptText, List.cons_inj_right, flatMap_code_of_quiet hquiet, ← h]
  constructor
  · intro hcode
    have hlength := length_flatMap_code p script
    rw [hcode] at hlength
    exact List.length_eq_zero_iff.1 (by omega)
  · exact flatMap_code_of_quiet

theorem mem_codeLines_of_stray {line : String} (h : line ∈ (script.filterMap Statement.stray?).flatten) :
    line ∈ codeLines (p.scriptText script) := by
  obtain ⟨lines, hlines, hline⟩ := List.mem_flatten.1 h
  obtain ⟨s, hs, hstray⟩ := List.mem_filterMap.1 hlines
  rw [codeLines_scriptText]
  refine List.mem_cons_of_mem _ (List.mem_flatMap.2 ⟨s, hs, ?_⟩)
  rw [code_eq, hstray]
  exact List.mem_append_left _ hline

end Platform

end Tablecraft
