import Tablecraft.Ddl.Table
import Tablecraft.Proofs.Finalization.Passes

namespace Tablecraft.Platform

open List Edit

variable {p : Platform} {db : Database} {e : Entity} {f : Field}

def writesKeyInline (p : Platform) (e : Entity) (f : Field) : Bool :=
  decide (p.dialect = .sqlite) && (inlineKey? e).any fun key => decide (key.name = f.name)

def needsNativeId (p : Platform) (e : Entity) (f : Field) : Bool := f.autoIncrement && !p.writesKeyInline e f

def columnParts (p : Platform) (e : Entity) (f : Field) : Except Fault (Option String → String) :=
  match p.dialect with
  | .mysql => do
    let base ← p.baseSqlType e f
    let value ← p.columnDefault e f
    let sqlType ← p.columnSqlType e f
    let comment := if Field.hasText f.description then
        ["COMMENT " ++ p.quote (f.description.getD "")]
      else []
    let nullity := (mysqlNullity base (nullText f.notNull) value).filter (· ≠ "")
    .ok fun token => Text.joinWith " " (sqlType :: p.mysqlAttributes f ++ nullity ++ token.toList ++ comment)
  | _ => do
    let sqlType ← p.columnSqlType e f
    let value ← p.columnDefault e f
    .ok fun token => Text.joinWith " " (sqlType :: [value, nullText f.notNull, token.getD ""].filter (· ≠ ""))

theorem columnDefinition_of_writesKeyInline (h : p.writesKeyInline e f = true) :
    p.columnDefinition e f = .ok "INTEGER PRIMARY KEY AUTOINCREMENT" := by
  obtain ⟨hd, hk⟩ := Bool.and_eq_true_iff.1 h
  obtain ⟨key, hk, hn⟩ := (Option.any_eq_true _ _).1 hk
  simp only [columnDefinition, of_decide_eq_true hd, hk, of_decide_eq_true hn, if_true]

theorem mysqlDefinition_eq (hd : p.dialect = .mysql) : p.mysqlDefinition e f = (do
    let finish ← p.columnParts e f
    let token ← p.autoIncrementClause e f
    .ok (finish token)) := by
  simp only [mysqlDefinition, columnParts, hd]
  cases p.baseSqlType e f <;> cases p.columnDefault e f <;> cases p.columnSqlType e f <;> rfl

theorem genericDefinition_eq (hd : p.dialect ≠ .mysql) : p.genericDefinition e f = (do
    let finish ← p.columnParts e f
    let token ← p.autoIncrementClause e f
    .ok (finish token)) := by
  have hparts : p.columnParts e f = (do
      let sqlType ← p.columnSqlType e f
      let value ← p.columnDefault e f
      .ok fun token => Text.joinWith " "
        (sqlType :: [value, nullText f.notNull, token.getD ""].filter (· ≠ ""))) := by
    unfold columnParts
    split
    · exact absurd ‹_› hd
    · rfl
  rw [hparts, genericDefinition]
  cases p.columnSqlType e f <;> cases p.columnDefault e f <;> rfl

/-- Every other column states its automatic values, and fails where these do. -/
theorem columnDefinition_eq (h : p.writesKeyInline e f = false) : p.columnDefinition e f = (do
    let finish ← p.columnParts e f
    let token ← p.autoIncrementClause e f
    .ok (finish token)) := by
  unfold columnDefinition
  cases hd : p.dialect with
  | mysql => exact mysqlDefinition_eq hd
  | sqlite =>
      have hg := genericDefinition_eq (p := p) (e := e) (f := f) (by simp [hd])
      cases hk : inlineKey? e with
      | none => exact hg
      | some key =>
          have hn : key.name ≠ f.name := by simpa [writesKeyInline, hd, hk] using h
          exact (if_neg hn).trans hg
  | generic => exact genericDefinition_eq (by simp [hd])
  | postgres => exact genericDefinition_eq (by simp [hd])

theorem autoIncrementClause_of_none (hm : e.idMethod = .none) (ha : f.autoIncrement = true) :
    p.autoIncrementClause e f = .error (.autoIncrementWithoutNativeId e.name f.name) := by
  simp [autoIncrementClause, ha, hm]

theorem columnParts_setIdMethod (m : IdMethod) : p.columnParts (e.setIdMethod m) f = p.columnParts e f := by
  have hname : (e.setIdMethod m).name = e.name := rfl
  have hparameter : (e.setIdMethod m).idMethodParameter = e.idMethodParameter := rfl
  simp only [columnParts, columnSqlType, columnDefault, baseSqlType, sizedSqlType, bareSqlType, nativeDomain,
    checkMysqlDefault, defaultClause, defaultLiteral, Literal.numeric, hname, hparameter]

theorem columnClause_setIdMethod (m : IdMethod) (h : p.needsNativeId e f = false) :
    p.columnClause (e.setIdMethod m) f = p.columnClause e f := by
  have hdef : p.columnDefinition (e.setIdMethod m) f = p.columnDefinition e f := by
    cases hw : p.writesKeyInline e f with
    | true =>
        rw [columnDefinition_of_writesKeyInline hw]
        exact columnDefinition_of_writesKeyInline hw
    | false =>
        have ha : f.autoIncrement = false := by simpa [needsNativeId, hw] using h
        have hclause (e : Entity) : p.autoIncrementClause e f = .ok none := by simp [autoIncrementClause, ha]
        rw [columnDefinition_eq hw, columnDefinition_eq (e := e.setIdMethod m) hw,
          columnParts_setIdMethod, hclause, hclause]
  rw [columnClause, columnClause, hdef]

theorem columnDefinition_of_none (hm : e.idMethod = .none) (h : p.needsNativeId e f = true) :
    p.columnDefinition e f =
      p.columnParts e f >>= fun _ => .error (.autoIncrementWithoutNativeId e.name f.name) := by
  obtain ⟨ha, hw⟩ := Bool.and_eq_true_iff.1 h
  rw [columnDefinition_eq (by simpa using hw), autoIncrementClause_of_none hm ha]
  rfl

theorem columnClause_ne_ok (hm : e.idMethod = .none) (h : p.needsNativeId e f = true) (clause : ColumnClause) :
    p.columnClause e f ≠ .ok clause := by
  intro hc
  obtain ⟨_, hc, _⟩ := except_bind_eq_ok_iff.1 hc
  rw [columnDefinition_of_none hm h] at hc
  obtain ⟨_, _, hc⟩ := except_bind_eq_ok_iff.1 hc
  cases hc

theorem columnClause_of_none {clause : ColumnClause} (hm : e.idMethod = .none) (h : p.needsNativeId e f = true)
    (hn : p.columnClause (e.setIdMethod .native) f = .ok clause) :
    p.columnClause e f = .error (.autoIncrementWithoutNativeId e.name f.name) := by
  have hw : p.writesKeyInline e f = false := by simpa using (Bool.and_eq_true_iff.1 h).2
  obtain ⟨_, hn, _⟩ := except_bind_eq_ok_iff.1 hn
  rw [columnDefinition_eq (e := e.setIdMethod .native) hw, columnParts_setIdMethod] at hn
  obtain ⟨finish, hf, _⟩ := except_bind_eq_ok_iff.1 hn
  rw [columnClause, columnDefinition_of_none hm h, hf]
  rfl

theorem exists_addEntity_iff : (∃ script, p.addEntity db e = .ok script) ↔
    ∀ f ∈ e.fields, ∃ clause, p.columnClause e f = .ok clause := by
  constructor
  · rintro ⟨script, h⟩
    obtain ⟨definition, h, _⟩ := except_bind_eq_ok_iff.1 h
    obtain ⟨clauses, h, _⟩ := except_bind_eq_ok_iff.1 h
    intro f hf
    obtain ⟨clause, _, hc⟩ := FirstMatch.exists_of_mem (mapM_eq_ok_iff.1 h) hf
    exact ⟨clause, hc⟩
  · intro h
    obtain ⟨clauses, h⟩ := exists_mapM h
    exact ⟨_, by rw [addEntity, tableDefinition, columnClauses, h]; rfl⟩

theorem addEntity_of_columnClauses {fault : Fault} (h : p.columnClauses e e.fields = .error fault) :
    p.addEntity db e = .error fault := by
  rw [addEntity, tableDefinition, h]
  rfl

theorem columnClause_setIdMethod_of_inline (h : f.autoIncrement = true → p.writesKeyInline e f = true) :
    p.columnClause (e.setIdMethod .native) f = p.columnClause e f := by
  apply columnClause_setIdMethod
  cases ha : f.autoIncrement with
  | false => simp [needsNativeId, ha]
  | true => simp [needsNativeId, h ha]

theorem exists_addEntity_iff_of_none (hm : e.idMethod = .none) : (∃ script, p.addEntity db e = .ok script) ↔
    (∀ f ∈ e.fields, f.autoIncrement = true → p.writesKeyInline e f = true) ∧
      ∃ script, p.addEntity db (e.setIdMethod .native) = .ok script := by
  have hfields : (e.setIdMethod .native).fields = e.fields := rfl
  rw [exists_addEntity_iff, exists_addEntity_iff, hfields]
  constructor
  · intro h
    have hinline : ∀ f ∈ e.fields, f.autoIncrement = true → p.writesKeyInline e f = true := by
      intro f hf ha
      by_contra hw
      obtain ⟨clause, hc⟩ := h f hf
      exact columnClause_ne_ok hm (by simp [needsNativeId, ha, hw]) clause hc
    refine ⟨hinline, fun f hf => ?_⟩
    rw [columnClause_setIdMethod_of_inline (hinline f hf)]
    exact h f hf
  · rintro ⟨hinline, h⟩ f hf
    rw [← columnClause_setIdMethod_of_inline (hinline f hf)]
    exact h f hf

/-- The columns before the first that needs generated keys are the same with them. -/
theorem addEntity_of_find? {script : Script} (hm : e.idMethod = .none)
    (hf : e.fields.find? (p.needsNativeId e) = some f)
    (hn : p.addEntity db (e.setIdMethod .native) = .ok script) :
    p.addEntity db e = .error (.autoIncrementWithoutNativeId e.name f.name) := by
  have hfields : (e.setIdMethod .native).fields = e.fields := rfl
  have hn := exists_addEntity_iff.1 ⟨script, hn⟩
  obtain ⟨hf, before, after, heq, hbefore⟩ := List.find?_eq_some_iff_append.1 hf
  apply addEntity_of_columnClauses
  rw [heq]
  apply mapM_eq_error
  · intro g hg
    obtain ⟨clause, hc⟩ := hn g (by simp [hfields, heq, hg])
    refine ⟨clause, ?_⟩
    rw [← columnClause_setIdMethod .native (by simpa using hbefore g hg)]
    exact hc
  · obtain ⟨clause, hc⟩ := hn f (by simp [hfields, heq])
    exact columnClause_of_none hm hf hc

/-- Without generated keys a table has no automatic column, apart from the key of SQLite. Otherwise the
first such field is the fault, if nothing else is wrong with the table. -/
theorem addEntity_of_idMethod_none (hm : e.idMethod = .none) :
    ((∃ script, p.addEntity db e = .ok script) ↔
      (∀ f ∈ e.fields, f.autoIncrement = true → p.writesKeyInline e f = true) ∧
        ∃ script, p.addEntity db (e.setIdMethod .native) = .ok script) ∧
    ∀ f script, e.fields.find? (p.needsNativeId e) = some f →
      p.addEntity db (e.setIdMethod .native) = .ok script →
        p.addEntity db e = .error (.autoIncrementWithoutNativeId e.name f.name) :=
  ⟨exists_addEntity_iff_of_none hm, fun _ _ hf hn => addEntity_of_find? hm hf hn⟩

def unnumberedDocument : SchemaDocument :=
  { databases := [
      { name := "library"
        entities := [
          { name := "book"
            idMethod := some "none"
            fields := [{ name := "id", fieldType := some "INTEGER", primaryKey := true, autoIncrement := true },
              { name := "title", fieldType := some "VARCHAR" }] }] }] }

theorem addEntity_unnumbered : ∃ db db' e, LoadedFrom .builtins unnumberedDocument db ∧
    (Database.finalize .builtins { dialect := .postgres }).result db = .ok db' ∧ e ∈ db'.entities ∧
    e.idMethod = .none ∧ (∃ script, addEntity { dialect := .postgres } db' (e.setIdMethod .native) = .ok script) ∧
    addEntity { dialect := .postgres } db' e = .error (.autoIncrementWithoutNativeId "book" "id") := by
  obtain ⟨db, db', hd, h, e, he, hm, hname, hfind, hn⟩ :=
    Database.exists_finalize_of_decide { dialect := .postgres }
    unnumberedDocument.first? (fun _ db' => ∃ e ∈ db'.entities, e.idMethod = .none ∧ e.name = "book" ∧
      (e.fields.find? (needsNativeId { dialect := .postgres } e)).map Field.name = some "id" ∧
      (addEntity { dialect := .postgres } db' (e.setIdMethod .native)).toOption.isSome = true) (by decide +kernel)
  obtain ⟨script, hn⟩ := Option.isSome_iff_exists.1 hn
  have hn := except_toOption_eq_some_iff.1 hn
  obtain ⟨f, hfind, hfield⟩ := Option.map_eq_some_iff.1 hfind
  refine ⟨db, db', e, SchemaDocument.loadedFrom_of_first? hd, h, he, hm, ⟨script, hn⟩, ?_⟩
  rw [← hname, ← hfield]
  exact (addEntity_of_idMethod_none hm).2 f script hfind hn

/-- SQLite creates the table all the same. -/
theorem exists_addEntity_unnumbered : ∃ db db' e, LoadedFrom .builtins unnumberedDocument db ∧
    (Database.finalize .builtins { dialect := .sqlite }).result db = .ok db' ∧ e ∈ db'.entities ∧
    e.idMethod = .none ∧ (∃ f ∈ e.fields, f.autoIncrement = true) ∧
    ∃ script, addEntity { dialect := .sqlite } db' e = .ok script := by
  obtain ⟨db, db', hd, h, e, he, hm, ha, hs⟩ := Database.exists_finalize_of_decide { dialect := .sqlite }
    unnumberedDocument.first? (fun _ db' => ∃ e ∈ db'.entities, e.idMethod = .none ∧
      (∃ f ∈ e.fields, f.autoIncrement = true) ∧
      (addEntity { dialect := .sqlite } db' e).toOption.isSome = true) (by decide +kernel)
  obtain ⟨script, hs⟩ := Option.isSome_iff_exists.1 hs
  exact ⟨db, db', e, SchemaDocument.loadedFrom_of_first? hd, h, he, hm, ha, script,
    except_toOption_eq_some_iff.1 hs⟩

end Tablecraft.Platform
