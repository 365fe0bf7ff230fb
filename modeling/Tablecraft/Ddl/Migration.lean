import Tablecraft.Ddl.Creation
import Tablecraft.Diff.Basic

namespace Tablecraft

namespace Platform

/-- A new column of a MySQL table goes where the entity has it. -/
def columnPlace (e : Entity) (f : Field) : ColumnPlace :=
  if f.position ≤ 1 then .first
  else
    match e.fields[f.position - 2]? with
    | some previous => .after previous.column
    | none => .last

def insertColumn (p : Platform) (e : Entity) (f : Field) : Except Fault AlterClause := do
  let clause ← p.columnClause e f
  .ok (.add clause (columnPlace e f))

def changeColumn (p : Platform) (e : Entity) (pair : Field × Field) :
    Except Fault AlterClause := do
  let clause ← p.columnClause e pair.2
  .ok (.change pair.1.column clause)

def renameColumn (p : Platform) (e : Entity) (pair : Field × Field) : Except Fault Statement := do
  match p.dialect with
  | .mysql =>
    let clause ← p.changeColumn e pair
    .ok (.alterOnce (p.tableName e) clause)
  | _ => .ok (.renameColumn (p.tableName e) pair.1.column pair.2.column)

def propertyChanges (p : Platform) (e : Entity) (pair : Field × Field) :
    Except Fault (List ColumnChange) := do
  let (old, new) := pair
  let oldType ← p.columnSqlType e old
  let newType ← p.columnSqlType e new
  let value ←
    if DefaultValue.agreesOption old.domain.default new.domain.default then .ok []
    else do
      let clause ← p.columnDefault e new
      .ok [if clause = "" then .dropDefault else .setDefault clause]
  let type := if oldType = newType then [] else [ColumnChange.setType newType]
  let nullity :=
    if old.notNull = new.notNull then []
    else [if new.notNull then .setNotNull else .dropNotNull]
  .ok (type ++ value ++ nullity)

def alterColumn (p : Platform) (e : Entity) (pair : Field × Field) : Except Fault Script := do
  let changes ← p.propertyChanges e pair
  .ok (changes.map (.alterColumn (p.tableName e) pair.2.column))

def modifyColumns (p : Platform) (e : Entity) (pairs : List (Field × Field)) :
    Except Fault Script := do
  match p.dialect with
  | .mysql => pairs.mapM (p.renameColumn e)
  | .postgres =>
    let scripts ← pairs.mapM (p.alterColumn e)
    .ok scripts.flatten
  | _ =>
    if pairs.isEmpty then .ok []
    else
      let clauses ← p.columnClauses e (pairs.map Prod.snd)
      .ok [.modifyColumns (p.tableName e) clauses]

def addColumns (p : Platform) (e : Entity) (fields : List Field) : Except Fault Script := do
  match p.dialect with
  | .generic =>
    if fields.isEmpty then .ok []
    else
      let clauses ← p.columnClauses e fields
      .ok [.addColumns (p.tableName e) clauses]
  | .mysql =>
    let clauses ← fields.mapM (p.insertColumn e)
    .ok (clauses.map (.alterOnce (p.tableName e)))
  | _ =>
    let clauses ← p.columnClauses e fields
    .ok (clauses.map (.addColumn (p.tableName e)))

def dropColumn (p : Platform) (e : Entity) (f : Field) : Statement :=
  .dropColumn (p.tableName e) f.column

/-- MySQL takes the new name like any table, the others take it bare. -/
def renameEntity (p : Platform) (source target : Entity) : Statement :=
  .renameTable (p.tableName source)
    (if p.dialect = .mysql then p.tableName target else target.table)

def dropPrimaryKey (p : Platform) (e : Entity) : Statement :=
  .dropPrimaryKey (p.tableName e) e.primaryKeyName

def addPrimaryKey (p : Platform) (e : Entity) : Statement :=
  .addPrimaryKey (p.tableName e) (p.primaryKeyColumns e)

def resolvePairs (source target : Entity) (pairs : List NamePair) :
    Except Fault (List (Field × Field)) :=
  pairs.mapM fun pair => do
    let old ← source.findField pair.source
    let new ← target.findField pair.target
    .ok (old, new)

def dropIndices (p : Platform) (source : Entity) (d : EntityDiff) : Except Fault Script := do
  let indices ← d.droppedIndices.mapM source.findIndex
  .ok (indices.map (p.dropIndex source))

def dropForeignKeys (p : Platform) (source : Entity) (d : EntityDiff) : Except Fault Script := do
  let relations ← d.droppedRelations.mapM source.findRelation
  .ok (relations.flatMap (p.dropForeignKey source))

def dropConstraints (p : Platform) (source : Entity) (d : EntityDiff) : Except Fault Script := do
  let keys ← p.dropForeignKeys source d
  let indices ← p.dropIndices source d
  .ok (keys ++ indices)

def addConstraints (p : Platform) (diff : DatabaseDiff) (target : Entity) (d : EntityDiff) :
    Except Fault Script := do
  let indices ← d.createdIndices.mapM target.findIndex
  let relations ← d.createdRelations.mapM target.findRelation
  .ok (indices.map (p.addIndex target) ++
    relations.flatMap (p.addForeignKey diff.target target))

def migrateStepwise (p : Platform) (diff : DatabaseDiff) (source target : Entity)
    (d : EntityDiff) : Except Fault Script := do
  let drops ← p.dropConstraints source d
  let renames ← d.renamedFields.mapM fun pair => do
    let old ← source.findField pair.source
    let new ← target.findField pair.target
    p.renameColumn target (old, new)
  let changed ← resolvePairs source target d.modifiedFields
  let changes ← p.modifyColumns target changed
  let added ← d.addedFields.mapM target.findField
  let additions ← p.addColumns target added
  let removed ← d.removedFields.mapM source.findField
  let creations ← p.addConstraints diff target d
  let dropKey := if d.modifiedPrimaryKey && source.hasPrimaryKey then
      [p.dropPrimaryKey source]
    else []
  let addKey := if d.modifiedPrimaryKey && target.hasPrimaryKey then
      [p.addPrimaryKey target]
    else []
  .ok (drops ++ dropKey ++ renames ++ changes ++ additions ++
    removed.map (p.dropColumn target) ++ addKey ++ creations)

def migrateMerged (p : Platform) (diff : DatabaseDiff) (source target : Entity)
    (d : EntityDiff) : Except Fault Script := do
  let drops ← p.dropConstraints source d
  let renames ← d.renamedFields.mapM fun pair => do
    let old ← source.findField pair.source
    let new ← target.findField pair.target
    p.changeColumn target (old, new)
  let changed ← resolvePairs source target d.modifiedFields
  let changes ← changed.mapM (p.changeColumn target)
  let added ← d.addedFields.mapM target.findField
  let additions ← added.mapM (p.insertColumn target)
  let removed ← d.removedFields.mapM source.findField
  let creations ← p.addConstraints diff target d
  let dropKey := if d.modifiedPrimaryKey && source.hasPrimaryKey then
      [.dropPrimaryKey]
    else []
  let addKey := if d.modifiedPrimaryKey && target.hasPrimaryKey then
      [.addPrimaryKey (p.primaryKeyColumns target)]
    else []
  let clauses := dropKey ++ renames ++ changes ++ additions ++
    removed.map (fun f => .drop f.column) ++ addKey
  let alter := if clauses.isEmpty then [] else [.alterTable (p.tableName target) clauses]
  .ok (drops ++ alter ++ creations)

def needsRebuild (d : EntityDiff) : Bool :=
  !d.modifiedFields.isEmpty || !d.removedFields.isEmpty || d.modifiedPrimaryKey ||
    !d.addedRelations.isEmpty || !d.removedRelations.isEmpty || !d.modifiedRelations.isEmpty

/-- The old and the new column of a new field whose rows stay: the field is not added, and the
source has it under its old name. -/
def keptColumn? (source : Entity) (d : EntityDiff) (f : Field) : Option (String × String) :=
  if d.addedFields.contains f.name then none
  else
    let name := ((d.renamedFields.find? (·.target == f.name)).map (·.source)).getD f.name
    (source.field? name).map fun old => (old.column, f.column)

/-- Copies the rows aside, creates the new table and moves the rows back. -/
def rebuildTable (p : Platform) (diff : DatabaseDiff) (source target : Entity)
    (d : EntityDiff) : Except Fault Script := do
  let columns := target.fields.filterMap (keptColumn? source d)
  let copy := target.table ++ "__temp__"
  let created ← p.addEntity diff.target target
  .ok (.saveRows copy (columns.map Prod.fst) (p.tableName source) ::
    created ++ p.addIndices target ++
    [.restoreRows copy columns (p.tableName target)])

def migrateOrRebuild (p : Platform) (diff : DatabaseDiff) (source target : Entity)
    (d : EntityDiff) : Except Fault Script := do
  if needsRebuild d then p.rebuildTable diff source target d
  else
    let drops ← p.dropIndices source d
    let renames ← d.renamedFields.mapM fun pair => do
      let old ← source.findField pair.source
      let new ← target.findField pair.target
      p.renameColumn target (old, new)
    let added ← d.addedFields.mapM target.findField
    let additions ← p.addColumns target added
    let creations ← p.addConstraints diff target d
    .ok (drops ++ renames ++ additions ++ creations)

def migrateEntity (p : Platform) (diff : DatabaseDiff) (d : EntityDiff) :
    Except Fault Script := do
  let source ← diff.renamedSource d
  let target ← diff.targetNamed d.target
  match p.dialect with
  | .mysql => p.migrateMerged diff source target d
  | .sqlite => p.migrateOrRebuild diff source target d
  | _ => p.migrateStepwise diff source target d

def createAdded (p : Platform) (db : Database) (e : Entity) : Except Fault Script := do
  let created ← p.addEntity db e
  .ok (created ++ p.addIndices e)

def migrationBody (p : Platform) (diff : DatabaseDiff) : Except Fault Script := do
  let removed ← diff.removedEntities.mapM diff.sourceNamed
  let renames ← diff.renamedEntities.mapM fun pair => do
    let source ← diff.sourceNamed pair.source
    let target ← diff.targetNamed pair.target
    .ok (p.renameEntity source target)
  let changes ← diff.modifiedEntities.mapM (p.migrateEntity diff)
  let created ← diff.addedEntities.mapM diff.targetNamed
  let tables ← created.mapM (p.createAdded diff.target)
  .ok (removed.flatMap p.dropEntity ++ renames ++ changes.flatten ++ tables.flatten ++
    created.flatMap (p.addForeignKeys diff.target))

def migrateDatabase (p : Platform) (diff : DatabaseDiff) : Except Fault Script := do
  let body ← p.migrationBody diff
  .ok (if body.isEmpty then [] else p.opening ++ body ++ p.closing)

def migrationText (p : Platform) (diff : DatabaseDiff) : Except Fault String :=
  (p.migrateDatabase diff).map p.scriptText

end Platform

end Tablecraft
