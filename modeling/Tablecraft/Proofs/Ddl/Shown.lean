import Tablecraft.Proofs.Ddl.Normalization

namespace Tablecraft

open List Edit FirstMatch

structure Field.Unseen where
  name : String
  givenSqlType : Option String
  replaced : Bool
  default : Option DefaultValue
  description : String
  vendor : VendorOptions
  deriving DecidableEq, Repr

def Field.unseen (p : Platform) (f : Field) : Field.Unseen where
  name := f.name
  givenSqlType := f.domain.givenSqlType
  replaced := f.domain.replaced
  default := f.domain.default
  description := f.description.getD ""
  vendor := VendorOptions.forDialect f.vendor p.name

structure Field.Shown where
  unseen : Field.Unseen
  column : String
  fieldType : FieldType
  size : Option Nat
  scale : Option Nat
  notNull : Bool
  primaryKey : Bool
  autoIncrement : Bool
  values : List String
  deriving DecidableEq, Repr

def Field.shown (p : Platform) (f : Field) : Field.Shown where
  unseen := f.unseen p
  column := f.column
  fieldType := f.fieldType
  size := f.domain.size
  scale := f.domain.scale
  notNull := f.notNull
  primaryKey := f.primaryKey
  autoIncrement := f.autoIncrement
  values := f.values

structure Index.Unseen where
  name : String
  bareName : String
  vendor : VendorOptions
  deriving DecidableEq, Repr

def Index.unseen (p : Platform) (i : Index) : Index.Unseen where
  name := i.name
  bareName := i.resetSizes.name
  vendor := VendorOptions.forDialect i.vendor p.name

structure Index.Shown where
  unseen : Index.Unseen
  unique : Bool
  members : List IndexMember
  deriving DecidableEq, Repr

def Index.shown (p : Platform) (i : Index) : Index.Shown where
  unseen := i.unseen p
  unique := i.unique
  members := i.members

structure Relation.Unseen where
  name : String
  foreignEntity : String
  skipSql : Bool
  deriving DecidableEq, Repr

def Relation.unseen (r : Relation) : Relation.Unseen where
  name := r.name
  foreignEntity := r.foreignEntity
  skipSql := r.skipSql

structure Relation.Shown where
  unseen : Relation.Unseen
  foreignTable : String
  localFields : List String
  foreignFields : List String
  onDelete : RelationAction
  onUpdate : RelationAction
  deriving DecidableEq, Repr

def Relation.shown (r : Relation) : Relation.Shown where
  unseen := r.unseen
  foreignTable := r.foreignTableName
  localFields := r.localFields
  foreignFields := r.foreignFields
  onDelete := r.onDelete
  onUpdate := r.onUpdate

structure Entity.Frame where
  name : String
  table : String
  tableName : String
  description : String
  sqlEligible : Bool
  vendor : VendorOptions
  idMethod : IdMethod
  idMethodParameter : Option String
  sequence : String
  nameLimit : Nat
  deriving DecidableEq, Repr

def Entity.frame (p : Platform) (e : Entity) : Entity.Frame where
  name := e.name
  table := e.table
  tableName := p.tableName e
  description := e.description.getD ""
  sqlEligible := e.sqlEligible
  vendor := VendorOptions.forDialect e.vendor p.name
  idMethod := e.idMethod
  idMethodParameter := e.idMethodParameter
  sequence := e.sequenceName
  nameLimit := e.nameLimit

/-- What scripts show of an entity and no comparison looks at, which includes the order of its parts. -/
structure Entity.Unseen where
  frame : Entity.Frame
  fields : List Field.Unseen
  relations : List Relation.Unseen
  indices : List Index.Unseen
  uniques : List Index.Unseen
  deriving DecidableEq, Repr

def Entity.unseen (p : Platform) (e : Entity) : Entity.Unseen where
  frame := e.frame p
  fields := e.fields.map (Field.unseen p)
  relations := e.relations.map Relation.unseen
  indices := e.indices.map (Index.unseen p)
  uniques := e.uniques.map (Index.unseen p)

@[ext]
structure Entity.Shown where
  frame : Entity.Frame
  fields : List Field.Shown
  relations : List Relation.Shown
  indices : List Index.Shown
  uniques : List Index.Shown
  deriving DecidableEq, Repr

def Entity.shown (p : Platform) (e : Entity) : Entity.Shown where
  frame := e.frame p
  fields := e.fields.map (Field.shown p)
  relations := e.relations.map Relation.shown
  indices := e.indices.map (Index.shown p)
  uniques := e.uniques.map (Index.shown p)

variable {p : Platform} {s t : Database} {e e' : Entity} {f f' : Field} {i i' : Index} {r r' : Relation}
  {name : String}

namespace Platform

theorem columnSqlType_congr (he : e.shown p = e'.shown p) (hf : f.shown p = f'.shown p) :
    p.columnSqlType e f = p.columnSqlType e' f' := by
  have hname : e.name = e'.name := congrArg (·.frame.name) he
  have hparameter : e.idMethodParameter = e'.idMethodParameter := congrArg (·.frame.idMethodParameter) he
  have hfield : f.name = f'.name := congrArg (·.unseen.name) hf
  have htype : f.fieldType = f'.fieldType := congrArg (·.fieldType) hf
  have hgiven : f.domain.givenSqlType = f'.domain.givenSqlType := congrArg (·.unseen.givenSqlType) hf
  have hreplaced : f.domain.replaced = f'.domain.replaced := congrArg (·.unseen.replaced) hf
  have hsize : f.domain.size = f'.domain.size := congrArg (·.size) hf
  have hscale : f.domain.scale = f'.domain.scale := congrArg (·.scale) hf
  have hvalues : f.values = f'.values := congrArg (·.values) hf
  have hauto : f.autoIncrement = f'.autoIncrement := congrArg (·.autoIncrement) hf
  simp only [columnSqlType, sizedSqlType, bareSqlType, nativeDomain, hname, hparameter, hfield, htype, hgiven,
    hreplaced, hsize, hscale, hvalues, hauto]

theorem baseSqlType_congr (he : e.shown p = e'.shown p) (hf : f.shown p = f'.shown p) :
    p.baseSqlType e f = p.baseSqlType e' f' := by
  have hname : e.name = e'.name := congrArg (·.frame.name) he
  have hfield : f.name = f'.name := congrArg (·.unseen.name) hf
  have htype : f.fieldType = f'.fieldType := congrArg (·.fieldType) hf
  have hgiven : f.domain.givenSqlType = f'.domain.givenSqlType := congrArg (·.unseen.givenSqlType) hf
  simp only [baseSqlType, nativeDomain, hname, hfield, htype, hgiven]

theorem columnDefault_congr (he : e.shown p = e'.shown p) (hf : f.shown p = f'.shown p) :
    p.columnDefault e f = p.columnDefault e' f' := by
  have hname : e.name = e'.name := congrArg (·.frame.name) he
  have hfield : f.name = f'.name := congrArg (·.unseen.name) hf
  have htype : f.fieldType = f'.fieldType := congrArg (·.fieldType) hf
  have hdefault : f.domain.default = f'.domain.default := congrArg (·.unseen.default) hf
  have hbase := baseSqlType_congr he hf
  simp only [columnDefault, checkMysqlDefault, defaultClause, defaultLiteral, Literal.numeric, hname,
    hfield, htype, hdefault, hbase]

theorem autoIncrementClause_congr (he : e.shown p = e'.shown p) (hf : f.shown p = f'.shown p) :
    p.autoIncrementClause e f = p.autoIncrementClause e' f' := by
  have hname : e.name = e'.name := congrArg (·.frame.name) he
  have hmethod : e.idMethod = e'.idMethod := congrArg (·.frame.idMethod) he
  have hfield : f.name = f'.name := congrArg (·.unseen.name) hf
  have hauto : f.autoIncrement = f'.autoIncrement := congrArg (·.autoIncrement) hf
  simp only [autoIncrementClause, hname, hmethod, hfield, hauto]

theorem genericDefinition_congr (he : e.shown p = e'.shown p) (hf : f.shown p = f'.shown p) :
    p.genericDefinition e f = p.genericDefinition e' f' := by
  have hnull : f.notNull = f'.notNull := congrArg (·.notNull) hf
  simp only [genericDefinition, columnSqlType_congr he hf, columnDefault_congr he hf,
    autoIncrementClause_congr he hf, hnull]

theorem mysqlDefinition_congr (he : e.shown p = e'.shown p) (hf : f.shown p = f'.shown p) :
    p.mysqlDefinition e f = p.mysqlDefinition e' f' := by
  have hnull : f.notNull = f'.notNull := congrArg (·.notNull) hf
  have hdescription : f.description.getD "" = f'.description.getD "" := congrArg (·.unseen.description) hf
  have htext : Field.hasText f.description = Field.hasText f'.description := congrArg (· != "") hdescription
  have hvendor : VendorOptions.forDialect f.vendor p.name = VendorOptions.forDialect f'.vendor p.name :=
    congrArg (·.unseen.vendor) hf
  simp only [mysqlDefinition, mysqlAttributes, baseSqlType_congr he hf, columnSqlType_congr he hf,
    columnDefault_congr he hf, autoIncrementClause_congr he hf, hnull, hdescription, htext, hvendor]

end Platform

theorem Entity.map_shown_primaryKey (p : Platform) (e : Entity) :
    e.primaryKey.map (Field.shown p) = (e.shown p).fields.filter (·.primaryKey) := by
  rw [Entity.primaryKey, Entity.shown, List.filter_map]
  rfl

theorem Entity.forall₂_primaryKey (he : e.shown p = e'.shown p) :
    Forall₂ (fun f g => f.shown p = g.shown p) e.primaryKey e'.primaryKey := by
  refine forall₂_of_map_eq ?_
  rw [map_shown_primaryKey, map_shown_primaryKey, he]

namespace Platform

theorem map_shown_inlineKey? (he : e.shown p = e'.shown p) :
    (inlineKey? e).map (Field.shown p) = (inlineKey? e').map (Field.shown p) := by
  have hk := Entity.forall₂_primaryKey he
  unfold inlineKey?
  generalize e.primaryKey = fs at hk ⊢
  generalize e'.primaryKey = gs at hk ⊢
  cases hk with
  | nil => rfl
  | @cons f g _ _ hf hrest =>
      cases hrest with
      | nil =>
          have hauto : f.autoIncrement = g.autoIncrement := congrArg (·.autoIncrement) hf
          simp only [hauto]
          split
          · exact congrArg some hf
          · rfl
      | cons => rfl

theorem columnDefinition_congr (he : e.shown p = e'.shown p) (hf : f.shown p = f'.shown p) :
    p.columnDefinition e f = p.columnDefinition e' f' := by
  have hg := genericDefinition_congr he hf
  unfold columnDefinition
  split
  · exact mysqlDefinition_congr he hf
  · have hfield : f.name = f'.name := congrArg (·.unseen.name) hf
    have hk : (inlineKey? e).map (·.name) = (inlineKey? e').map (·.name) := by
      have h := congrArg (Option.map (·.unseen.name)) (map_shown_inlineKey? he)
      rwa [Option.map_map, Option.map_map] at h
    generalize inlineKey? e = k at hk ⊢
    generalize inlineKey? e' = k' at hk ⊢
    cases k with
    | none => cases k' with
      | none => exact hg
      | some => cases hk
    | some key => cases k' with
      | none => cases hk
      | some key' =>
          have hkey : key.name = key'.name := Option.some.inj hk
          simp only [hkey, hfield, hg]
  · exact hg

theorem columnClause_congr (he : e.shown p = e'.shown p) (hf : f.shown p = f'.shown p) :
    p.columnClause e f = p.columnClause e' f' := by
  have hcolumn : f.column = f'.column := congrArg (·.column) hf
  rw [columnClause, columnClause, columnDefinition_congr he hf, hcolumn]

end Platform

theorem Entity.map_shown_field? (p : Platform) (e : Entity) (name : String) :
    (e.field? name).map (Field.shown p) = (e.shown p).fields.find? (·.unseen.name == name) := by
  rw [Entity.field?, Entity.shown, List.find?_map]
  rfl

namespace Platform

theorem fieldColumn_congr (he : e.shown p = e'.shown p) : fieldColumn e = fieldColumn e' := by
  funext name
  have h : (e.field? name).map (Field.shown p) = (e'.field? name).map (Field.shown p) := by
    rw [Entity.map_shown_field?, Entity.map_shown_field?, he]
  have hc : (e.field? name).map Field.column = (e'.field? name).map Field.column := by
    have h := congrArg (Option.map Field.Shown.column) h
    rwa [Option.map_map, Option.map_map] at h
  rw [fieldColumn, fieldColumn, hc]

theorem primaryKeyColumns_congr (he : e.shown p = e'.shown p) :
    p.primaryKeyColumns e = p.primaryKeyColumns e' := by
  have hk := Entity.forall₂_primaryKey he
  have hinline : (inlineKey? e).isSome = (inlineKey? e').isSome := by
    have h := congrArg Option.isSome (map_shown_inlineKey? he)
    rwa [Option.isSome_map, Option.isSome_map] at h
  have hfields : Forall₂ (fun f g => f.shown p = g.shown p) (p.primaryKeyFields e) (p.primaryKeyFields e') := by
    unfold primaryKeyFields
    split
    · have hx := rel_extract? hk (q := (·.autoIncrement)) (r := (·.autoIncrement))
        fun f g h => congrArg (·.autoIncrement) h
      generalize extract? (·.autoIncrement) e.primaryKey = a at hx ⊢
      generalize extract? (·.autoIncrement) e'.primaryKey = b at hx ⊢
      cases hx with
      | none => exact hk
      | some h => exact .cons h.1 h.2
    · exact hk
  have hcolumns : (p.primaryKeyFields e).map Field.column = (p.primaryKeyFields e').map Field.column :=
    (map_eq_of_forall₂ hfields fun f g h => congrArg (·.column) h.symm).symm
  rw [primaryKeyColumns, primaryKeyColumns, hinline, hcolumns]

theorem indexKind_congr (hi : i.shown p = i'.shown p) : p.indexKind i = p.indexKind i' := by
  have hvendor : VendorOptions.forDialect i.vendor p.name = VendorOptions.forDialect i'.vendor p.name :=
    congrArg (·.unseen.vendor) hi
  have hunique : i.unique = i'.unique := congrArg (·.unique) hi
  rw [indexKind, indexKind, hvendor, hunique]

theorem indexColumns_congr (he : e.shown p = e'.shown p) (hi : i.shown p = i'.shown p) :
    p.indexColumns e i = p.indexColumns e' i' := by
  have hmembers : i.members = i'.members := congrArg (·.members) hi
  rw [indexColumns, indexColumns, fieldColumn_congr he, hmembers]

theorem addIndices_congr (he : e.shown p = e'.shown p) : p.addIndices e = p.addIndices e' := by
  have htable : p.tableName e = p.tableName e' := congrArg (·.frame.tableName) he
  have hindices : e.indices.map (p.addIndex e) = e'.indices.map (p.addIndex e') := by
    refine (map_eq_of_forall₂ (forall₂_of_map_eq (congrArg (·.indices) he)) fun i j h => ?_).symm
    have hname : i.name = j.name := congrArg (·.unseen.name) h
    rw [addIndex, addIndex, indexKind_congr h, indexColumns_congr he h, hname, htable]
  rw [addIndices, addIndices, hindices]

theorem uniqueItem_congr (he : e.shown p = e'.shown p) (hi : i.shown p = i'.shown p) :
    p.uniqueItem e i = p.uniqueItem e' i' := by
  have hmembers : i.members = i'.members := congrArg (·.members) hi
  have hname : i.name = i'.name := congrArg (·.unseen.name) hi
  rw [uniqueItem, uniqueItem, Index.memberNames, Index.memberNames, fieldColumn_congr he, hmembers, hname]

def AgreeAt (p : Platform) (s t : Database) (name : String) : Prop :=
  (s.entity? name).map (Entity.shown p) = (t.entity? name).map (Entity.shown p)

theorem agreeAt_iff : p.AgreeAt s t name ↔ (s.entity? name = none ∧ t.entity? name = none) ∨
    ∃ e e', s.entity? name = some e ∧ t.entity? name = some e' ∧ e.shown p = e'.shown p := by
  unfold AgreeAt
  cases s.entity? name with
  | none => cases t.entity? name <;> simp
  | some e => cases t.entity? name <;> simp

def TargetsAgree (p : Platform) (s t : Database) (e : Entity) : Prop :=
  ∀ r ∈ e.relations, r.skipSql = false → p.AgreeAt s t r.foreignEntity

theorem foreignKeyClause_congr (he : e.shown p = e'.shown p) (hr : r.shown = r'.shown)
    (ht : p.AgreeAt s t r.foreignEntity) : p.foreignKeyClause s e r = p.foreignKeyClause t e' r' := by
  have hname : r.name = r'.name := congrArg (·.unseen.name) hr
  have hforeign : r.foreignEntity = r'.foreignEntity := congrArg (·.unseen.foreignEntity) hr
  have htable : r.foreignTableName = r'.foreignTableName := congrArg (·.foreignTable) hr
  have hlocal : r.localFields = r'.localFields := congrArg (·.localFields) hr
  have hfields : r.foreignFields = r'.foreignFields := congrArg (·.foreignFields) hr
  have hdelete : r.onDelete = r'.onDelete := congrArg (·.onDelete) hr
  have hupdate : r.onUpdate = r'.onUpdate := congrArg (·.onUpdate) hr
  rw [hforeign] at ht
  simp only [foreignKeyClause, hname, hforeign, htable, hlocal, hfields, hdelete, hupdate, fieldColumn_congr he]
  obtain ⟨hsn, htn⟩ | ⟨x, y, hx, hy, hxy⟩ := agreeAt_iff.1 ht
  · simp only [hsn, htn]
  · have htable : p.tableName x = p.tableName y := congrArg (·.frame.tableName) hxy
    simp only [hx, hy, Option.map_some, htable, fieldColumn_congr hxy]

theorem tableEngine_congr (hp : p.dialect = .mysql) (he : e.shown p = e'.shown p) :
    p.tableEngine e = p.tableEngine e' := by
  have hn : p.name = Dialect.mysql.name := congrArg Dialect.name hp
  have hvendor : VendorOptions.forDialect e.vendor p.name = VendorOptions.forDialect e'.vendor p.name :=
    congrArg (·.frame.vendor) he
  rw [hn] at hvendor
  rw [tableEngine, tableEngine, hvendor]

theorem supportsForeignKeys_congr (he : e.shown p = e'.shown p) :
    p.supportsForeignKeys e = p.supportsForeignKeys e' := by
  unfold supportsForeignKeys
  split
  · rw [usesForeignKeyEngine, usesForeignKeyEngine, tableEngine_congr ‹_› he]
  · rfl

section

variable (he : e.shown p = e'.shown p) (ht : p.TargetsAgree s t e)

include he ht

/-- Relations that show the same, and that lead to entities that do. -/
theorem forall₂_relations : Forall₂ (fun r r' => (r.skipSql = false → p.AgreeAt s t r.foreignEntity) ∧
    r.shown = r'.shown) e.relations e'.relations :=
  (List.forall₂_and_left _ _).2 ⟨ht, forall₂_of_map_eq (congrArg (·.relations) he)⟩

theorem addForeignKeys_congr : p.addForeignKeys s e = p.addForeignKeys t e' := by
  have htable : p.tableName e = p.tableName e' := congrArg (·.frame.tableName) he
  have hkeys : e.relations.map (p.addForeignKey s e) = e'.relations.map (p.addForeignKey t e') := by
    refine (map_eq_of_forall₂ (forall₂_relations he ht) fun r r' h => ?_).symm
    have hskip : r.skipSql = r'.skipSql := congrArg (·.unseen.skipSql) h.2
    have hrenders : p.rendersForeignKey e r = p.rendersForeignKey e' r' := by
      rw [rendersForeignKey, rendersForeignKey, hskip, supportsForeignKeys_congr he]
    unfold addForeignKey
    rw [hrenders, htable]
    split
    · rename_i hc
      have hs : r.skipSql = false := by
        have h := (Bool.and_eq_true_iff.1 (Bool.and_eq_true_iff.1 hc).1).1
        simpa [hskip] using h
      rw [foreignKeyClause_congr he h.2 (h.1 hs)]
    · rfl
  rw [addForeignKeys, addForeignKeys, List.flatMap_def, List.flatMap_def, hkeys]

theorem inlineForeignKeys_congr : p.inlineForeignKeys s e = p.inlineForeignKeys t e' := by
  have hskip (r r' : Relation) (h : r.shown = r'.shown) : r.skipSql = r'.skipSql := congrArg (·.unseen.skipSql) h
  have hr : Forall₂ (fun r r' => p.AgreeAt s t r.foreignEntity ∧ r.shown = r'.shown)
      (e.relations.filter fun r => !r.skipSql) (e'.relations.filter fun r => !r.skipSql) := by
    refine (List.forall₂_and_left _ _).2 ⟨fun r hr => ?_, ?_⟩
    · obtain ⟨hm, hs⟩ := List.mem_filter.1 hr
      exact ht r hm (by simpa using hs)
    · exact List.rel_filter (fun r r' h => by simp [hskip r r' h]) (forall₂_of_map_eq (congrArg (·.relations) he))
  refine (map_eq_of_forall₂ hr fun r r' h => ?_).symm
  rw [foreignKeyClause_congr he h.2 h.1]

end

theorem describedBy_congr {d d' : Option String} (h : d.getD "" = d'.getD "") :
    describedBy d = describedBy d' := by
  cases d with
  | none => cases d' with
    | none => rfl
    | some text => simp [describedBy, Field.hasText, (show "" = text from h).symm]
  | some text => cases d' with
    | none => simp [describedBy, Field.hasText, show text = "" from h]
    | some text' => rw [show text = text' from h]

theorem commonItems_congr (he : e.shown p = e'.shown p) : p.commonItems e = p.commonItems e' := by
  funext columns
  rw [commonItems, commonItems, primaryKeyColumns_congr he]

theorem columnClauses_congr (he : e.shown p = e'.shown p) :
    p.columnClauses e e.fields = p.columnClauses e' e'.fields :=
  mapM_eq_of_forall₂ (forall₂_of_map_eq (congrArg (·.fields) he)) fun _ _ hf => columnClause_congr he hf

theorem ownSequence?_congr (he : e.shown p = e'.shown p) : p.ownSequence? e = p.ownSequence? e' := by
  have hmethod : e.idMethod = e'.idMethod := congrArg (·.frame.idMethod) he
  have hparameter : e.idMethodParameter = e'.idMethodParameter := congrArg (·.frame.idMethodParameter) he
  have hsequence : e.sequenceName = e'.sequenceName := congrArg (·.frame.sequence) he
  rw [ownSequence?, ownSequence?, hmethod, hparameter, hsequence]

theorem dropEntity_congr (he : e.shown p = e'.shown p) : p.dropEntity e = p.dropEntity e' := by
  have htable : p.tableName e = p.tableName e' := congrArg (·.frame.tableName) he
  rw [dropEntity, dropEntity, htable, ownSequence?_congr he]

theorem describe_congr (he : e.shown p = e'.shown p) : p.describe e = p.describe e' := by
  have htable : p.tableName e = p.tableName e' := congrArg (·.frame.tableName) he
  have hdescription : describedBy e.description = describedBy e'.description :=
    describedBy_congr (congrArg (·.frame.description) he)
  have hfields : p.describeFields e = p.describeFields e' := by
    rw [describeFields, describeFields, htable]
    refine filterMap_eq_of_forall₂ (forall₂_of_map_eq (congrArg (·.fields) he)) fun f g hf => ?_
    have hcolumn : f.column = g.column := congrArg (·.column) hf
    have hd : describedBy f.description = describedBy g.description :=
      describedBy_congr (congrArg (·.unseen.description) hf)
    rw [hd, hcolumn]
  rw [describe, describe, htable, hdescription, hfields]

section

variable (hv : VendorOptions.forDialect s.vendor p.name = VendorOptions.forDialect t.vendor p.name)
  (he : e.shown p = e'.shown p)

include hv he

theorem mysqlTableOptions_congr (hp : p.dialect = .mysql) :
    p.mysqlTableOptions s e = p.mysqlTableOptions t e' := by
  have hn : p.name = Dialect.mysql.name := congrArg Dialect.name hp
  have hvendor : VendorOptions.forDialect e.vendor p.name = VendorOptions.forDialect e'.vendor p.name :=
    congrArg (·.frame.vendor) he
  have hdescription : describedBy e.description = describedBy e'.description :=
    describedBy_congr (congrArg (·.frame.description) he)
  rw [hn] at hv hvendor
  rw [mysqlTableOptions, mysqlTableOptions, tableEngine_congr hp he, hdescription, tableOptions, tableOptions, hv,
    hvendor]

variable (ht : p.TargetsAgree s t e)

include ht

omit hv in
theorem tableItems_congr : p.tableItems s e = p.tableItems t e' := by
  have hi := forall₂_of_map_eq (congrArg (·.indices) he)
  have hu := forall₂_of_map_eq (congrArg (·.uniques) he)
  have hindices : e.indices.map (fun i => TableItem.index (p.indexKind i) i.name (p.indexColumns e i)) =
      e'.indices.map fun i => TableItem.index (p.indexKind i) i.name (p.indexColumns e' i) := by
    refine (map_eq_of_forall₂ hi fun i j h => ?_).symm
    rw [indexKind_congr h, indexColumns_congr he h, show i.name = j.name from congrArg (·.unseen.name) h]
  have huniques : e.uniques.map (fun u => TableItem.uniqueIndex u.name (p.indexColumns e u)) =
      e'.uniques.map fun u => TableItem.uniqueIndex u.name (p.indexColumns e' u) := by
    refine (map_eq_of_forall₂ hu fun i j h => ?_).symm
    rw [indexColumns_congr he h, show i.name = j.name from congrArg (·.unseen.name) h]
  have hitems : e.uniques.map (p.uniqueItem e) = e'.uniques.map (p.uniqueItem e') :=
    (map_eq_of_forall₂ hu fun _ _ h => (uniqueItem_congr he h).symm).symm
  funext columns
  rw [tableItems, tableItems, commonItems_congr he, hindices, huniques, hitems, supportsForeignKeys_congr he,
    inlineForeignKeys_congr he ht]

theorem tableDefinition_congr : p.tableDefinition s e = p.tableDefinition t e' := by
  have htable : p.tableName e = p.tableName e' := congrArg (·.frame.tableName) he
  have hdescription : describedBy e.description = describedBy e'.description :=
    describedBy_congr (congrArg (·.frame.description) he)
  have hoptions : (if p.dialect = .mysql then p.mysqlTableOptions s e else []) =
      if p.dialect = .mysql then p.mysqlTableOptions t e' else [] := by
    split
    · exact mysqlTableOptions_congr hv he ‹_›
    · rfl
  rw [tableDefinition, tableDefinition, columnClauses_congr he, htable, hdescription,
    tableItems_congr he ht, hoptions]

/-- The statements that create a table depend on nothing but what the entity shows, as far as its
relations lead to entities that show the same. -/
theorem createEntity_congr : p.createEntity s e = p.createEntity t e' := by
  have htable : e.table = e'.table := congrArg (·.frame.table) he
  rw [createEntity, createEntity, addEntity, addEntity, tableDefinition_congr hv he ht, ownSequence?_congr he,
    describe_congr he, dropEntity_congr he, addIndices_congr he, htable]

end

end Platform

end Tablecraft
