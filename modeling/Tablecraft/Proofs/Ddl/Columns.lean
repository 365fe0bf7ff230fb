import Tablecraft.Proofs.Ddl.Normalization
import Tablecraft.Proofs.Ddl.Pieces
import Tablecraft.Proofs.Finalization.Passes
import Tablecraft.Proofs.Naming.SnakeCase

namespace Tablecraft

open List Edit

variable {p : Platform} {db db' n : Database} {e : Entity} {script : Script}

def TableItem.column? : TableItem → Option String
  | .column clause => some clause.name
  | _ => none

def TableDefinition.columnNames (d : TableDefinition) : List String := d.items.filterMap TableItem.column?

/-- Columns derived from regular names are one exactly where one name is the form of the other. -/
def Field.ColumnRule (f g : Field) : Prop :=
  f.givenColumn = none → g.givenColumn = none → Naming.Regular f.name → Naming.Regular g.name →
    (f.column = g.column ↔ f.name = Naming.snakeCase g.name ∨ g.name = Naming.snakeCase f.name)

theorem Field.columnRule_of_ne {f g : Field} (h : f.name ≠ g.name) : f.ColumnRule g := by
  intro hf hg hm hn
  rw [Field.column, Field.column, hf, hg, Option.getD_none, Option.getD_none,
    Naming.snakeCase_eq_iff hm hn]
  exact or_iff_right h

theorem Entity.columnRule_of_nodup (h : e.fieldNames.Nodup) : e.fields.Pairwise Field.ColumnRule :=
  (List.pairwise_map.1 h).imp Field.columnRule_of_ne

/-- Where all columns derive from regular names, they are distinct as long as no name is the form of
another. -/
theorem Entity.nodup_columns_iff (h : e.fields.Pairwise Field.ColumnRule)
    (hf : ∀ f ∈ e.fields, f.givenColumn = none ∧ Naming.Regular f.name) :
    (e.fields.map Field.column).Nodup ↔
      e.fields.Pairwise fun f g => ¬(f.name = Naming.snakeCase g.name ∨ g.name = Naming.snakeCase f.name) := by
  have hrule {f g : Field} (hfm : f ∈ e.fields) (hgm : g ∈ e.fields) (hr : f.ColumnRule g) :=
    hr (hf f hfm).1 (hf g hgm).1 (hf f hfm).2 (hf g hgm).2
  rw [List.Nodup, List.pairwise_map]
  constructor
  · intro hn
    refine (h.and hn).imp_of_mem fun hfm hgm hfg => ?_
    rw [← hrule hfm hgm hfg.1]
    exact hfg.2
  · intro hn
    refine (h.and hn).imp_of_mem fun hfm hgm hfg => ?_
    rw [Ne, hrule hfm hgm hfg.1]
    exact hfg.2

namespace Platform

theorem name_columnClause {f : Field} {clause : ColumnClause} (h : p.columnClause e f = .ok clause) :
    clause.name = f.column := by
  obtain ⟨_, _, h⟩ := except_bind_eq_ok_iff.1 h
  cases h
  rfl

theorem map_name_columnClauses {fields : List Field} {columns : List ColumnClause}
    (h : p.columnClauses e fields = .ok columns) : columns.map (·.name) = fields.map Field.column :=
  FirstMatch.map_eq_of_forall₂ (mapM_eq_ok_iff.1 h) fun _ _ hc => name_columnClause hc

theorem column?_uniqueItem (u : Index) : (p.uniqueItem e u).column? = none := by
  unfold uniqueItem
  split <;> rfl

theorem columns_commonItems (columns : List ColumnClause) :
    (p.commonItems e columns).filterMap TableItem.column? = columns.map (·.name) := by
  have hc : columns.filterMap (TableItem.column? ∘ TableItem.column) = columns.map (·.name) := by
    rw [← List.filterMap_eq_map]
    rfl
  unfold commonItems
  rw [List.filterMap_append, List.filterMap_map, hc]
  split <;> simp [TableItem.column?]

theorem columns_tableItems (columns : List ColumnClause) :
    (p.tableItems db e columns).filterMap TableItem.column? = columns.map (·.name) := by
  have hu : e.uniques.filterMap (fun u => (p.uniqueItem e u).column?) = [] := by
    simp [column?_uniqueItem]
  have hk : (p.inlineForeignKeys db e).filterMap TableItem.column? = [] := by
    simp [inlineForeignKeys, TableItem.column?]
  unfold tableItems
  split
  · have hf : (if p.supportsForeignKeys e then p.inlineForeignKeys db e else []).filterMap
        TableItem.column? = [] := by
      split
      · exact hk
      · rfl
    simp only [List.filterMap_append, columns_commonItems, hf, List.filterMap_map]
    simp [Function.comp_def, TableItem.column?]
  · simp only [List.filterMap_append, columns_commonItems, hk, List.filterMap_map]
    simp [column?_uniqueItem]
  · simp only [List.filterMap_append, columns_commonItems, List.filterMap_map]
    simp [column?_uniqueItem]

theorem columnNames_tableDefinition {d : TableDefinition} (h : p.tableDefinition db e = .ok d) :
    d.table = p.tableName e ∧ d.columnNames = e.fields.map Field.column := by
  obtain ⟨columns, hc, h⟩ := except_bind_eq_ok_iff.1 h
  cases h
  exact ⟨rfl, (columns_tableItems columns).trans (map_name_columnClauses hc)⟩

/-- The tables of a creation script are those of entities, each with the columns of its fields. -/
theorem exists_of_mem_createDatabase {d : TableDefinition} (h : p.createDatabase db = .ok script)
    (hd : Statement.createTable d ∈ script) :
    ∃ e ∈ db.entities, d.table = p.tableName e ∧ d.columnNames = e.fields.map Field.column := by
  obtain ⟨n, tables, hn, ht, rfl⟩ := createDatabase_eq_ok h
  have hn := normalized_of_normalizeEntities hn
  rcases List.mem_append.1 hd with hd | hd
  · rcases List.mem_append.1 hd with hd | hd
    · rcases List.mem_append.1 hd with hd | hd
      · cases mem_opening hd
      · obtain ⟨created, hc, hd⟩ := List.mem_flatten.1 hd
        obtain ⟨e', he', hce⟩ := FirstMatch.exists_of_mem' (mapM_eq_ok_iff.1 ht) hc
        obtain ⟨name, _, hne⟩ := List.mem_filterMap.1 he'
        obtain ⟨e, he, hx⟩ := hn.entity?' hne
        rcases mem_createEntity hce hd with hd | hd | ⟨added, ha, hd⟩ | hd
        · cases hd
        · rcases mem_dropEntity hd with hd | ⟨_, hd⟩ <;> cases hd
        · rcases mem_addEntity ha hd with ⟨d', hd', hs⟩ | ⟨_, hs⟩ | ⟨_, hs⟩ | ⟨_, _, hs⟩
          · obtain rfl := Statement.createTable.inj hs
            obtain ⟨htable, hcolumns⟩ := columnNames_tableDefinition hd'
            refine ⟨e, Database.mem_of_entity? he, ?_, ?_⟩
            · rw [htable, hx.tableName_eq]
            · rw [hcolumns, hx.columns_eq]
          · cases hs
          · cases hs
          · cases hs
        · obtain ⟨i, _, hd⟩ := mem_addIndices hd
          simp [addIndex] at hd
    · obtain ⟨e', _, hd⟩ := List.mem_flatMap.1 hd
      obtain ⟨r, _, _, hd⟩ := mem_addForeignKeys hd
      cases hd
  · cases mem_closing hd

end Platform

/-- Loading refuses two fields of one name and finalization adds none, so that derived columns are
different up to the form of names; tables have these columns and no others. -/
theorem columns_of_finalize {doc : SchemaDocument} (hl : LoadedFrom .builtins doc db)
    (h : (Database.finalize .builtins p).result db = .ok db') :
    (∀ e ∈ db'.entities, e.fieldNames.Nodup ∧ e.fields.Pairwise Field.ColumnRule ∧
      ((∀ f ∈ e.fields, f.givenColumn = none ∧ Naming.Regular f.name) →
        ((e.fields.map Field.column).Nodup ↔ e.fields.Pairwise fun f g =>
          ¬(f.name = Naming.snakeCase g.name ∨ g.name = Naming.snakeCase f.name)))) ∧
      ∀ script, p.createDatabase db' = .ok script → ∀ d, Statement.createTable d ∈ script →
        ∃ e ∈ db'.entities, d.table = p.tableName e ∧ d.columnNames = e.fields.map Field.column := by
  obtain ⟨_, hd⟩ := hl.fresh.of_finalize Registry.additive_builtins h
  refine ⟨fun e he => ?_, fun script hs d hm => ?_⟩
  · have hr := Entity.columnRule_of_nodup (hd e he)
    exact ⟨hd e he, hr, Entity.nodup_columns_iff hr⟩
  · exact Platform.exists_of_mem_createDatabase hs hm

theorem columns_library : ∃ db db', LoadedFrom .builtins libraryDocument db ∧
    (Database.finalize .builtins { dialect := .postgres }).result db = .ok db' ∧
    (∀ e ∈ db'.entities, e.fieldNames.Nodup ∧ e.fields.Pairwise Field.ColumnRule ∧
      ((∀ f ∈ e.fields, f.givenColumn = none ∧ Naming.Regular f.name) →
        ((e.fields.map Field.column).Nodup ↔ e.fields.Pairwise fun f g =>
          ¬(f.name = Naming.snakeCase g.name ∨ g.name = Naming.snakeCase f.name)))) ∧
    ∀ script, Platform.createDatabase { dialect := .postgres } db' = .ok script →
      ∀ d, Statement.createTable d ∈ script → ∃ e ∈ db'.entities,
        d.table = Platform.tableName { dialect := .postgres } e ∧
          d.columnNames = e.fields.map Field.column := by
  have hf : (libraryDocument.finalized? { dialect := .postgres }).isSome = true := by decide +kernel
  obtain ⟨db', hf⟩ := Option.isSome_iff_exists.1 hf
  obtain ⟨db, hl, hr⟩ := SchemaDocument.loadedFrom_of_finalized? hf
  exact ⟨db, db', hl, hr, columns_of_finalize hl hr⟩

def twoStylesDocument : SchemaDocument :=
  { databases := [
      { name := "library"
        entities := [
          { name := "book"
            fields := [{ name := "authorId", fieldType := some "INTEGER" },
              { name := "author_id", fieldType := some "INTEGER" }] }] }] }

def Statement.repeatsColumn : Statement → Bool
  | .createTable d => !decide d.columnNames.Nodup
  | _ => false

theorem Statement.exists_of_repeatsColumn {s : Statement} (h : s.repeatsColumn = true) :
    ∃ d, s = .createTable d ∧ ¬d.columnNames.Nodup := by
  cases s with
  | createTable d => exact ⟨d, rfl, by simpa [repeatsColumn] using h⟩
  | _ => cases h

/-- Across styles columns can coincide, and the table then has the column twice. -/
theorem exists_repeated_column : ∃ db db' script, LoadedFrom .builtins twoStylesDocument db ∧
    (Database.finalize .builtins {}).result db = .ok db' ∧
    (∃ e ∈ db'.entities, ¬(e.fields.map Field.column).Nodup) ∧
    Platform.createDatabase {} db' = .ok script ∧
    ∃ d, Statement.createTable d ∈ script ∧ ¬d.columnNames.Nodup := by
  have hf : (twoStylesDocument.finalized? {}).any (fun db =>
      (db.entities.any fun e => !decide (e.fields.map Field.column).Nodup) &&
        (Platform.createDatabase {} db).toOption.any (·.any Statement.repeatsColumn)) = true := by
    decide +kernel
  obtain ⟨db', hf, hc⟩ := (Option.any_eq_true _ _).1 hf
  obtain ⟨hn, hs⟩ := Bool.and_eq_true_iff.1 hc
  obtain ⟨e, he, hn⟩ := List.any_eq_true.1 hn
  obtain ⟨script, hs, hr⟩ := (Option.any_eq_true _ _).1 hs
  obtain ⟨s, hm, hr⟩ := List.any_eq_true.1 hr
  obtain ⟨d, rfl, hd⟩ := Statement.exists_of_repeatsColumn hr
  obtain ⟨db, hl, hr⟩ := SchemaDocument.loadedFrom_of_finalized? hf
  exact ⟨db, db', script, hl, hr, ⟨e, he, by simpa using hn⟩, except_toOption_eq_some_iff.1 hs, d, hm, hd⟩

end Tablecraft
