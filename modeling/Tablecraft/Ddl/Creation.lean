import Tablecraft.Ddl.Printer
import Tablecraft.Ddl.Table

namespace Tablecraft

namespace Platform

/-- The foreign entity and the foreign fields of a relation, if a unique constraint on them is
missing and possible. -/
def missingUnique? (db : Database) (r : Relation) : Option (String × List String) :=
  if r.skipSql || !r.hasReferences then none
  else
    (db.entity? r.foreignEntity).bind fun foreign =>
      let names := r.foreignFields
      if !foreign.isUniqueOn names && names.all foreign.hasField then
        some (foreign.name, names)
      else none

def addMissingUnique (target : String × List String) : Edit Database Unit :=
  Database.editEntity target.1 (Edit.attempt fun e =>
    if e.isUniqueOn target.2 then .ok e else e.addUnique (Index.uniqueOfNames target.2))

def addMissingUniques : List (String × List String) → Edit Database Unit
  | [] => pure ()
  | target :: rest => do
    addMissingUnique target
    addMissingUniques rest

/-- A size that the dialect assumes anyway is not written. -/
def dropDefaultSize (p : Platform) (f : Field) : Field :=
  if f.domain.size.isSome && f.domain.scale.isNone &&
      f.domain.size == p.defaultTypeSize? f.fieldType then
    { f with domain := { f.domain with size := none } }
  else f

def dropUnusedSizes (p : Platform) (e : Entity) : Entity :=
  let e := if p.supportsIndexSize then e else
    { e with
      indices := e.indices.map Index.resetSizes
      uniques := e.uniques.map Index.resetSizes }
  { e with fields := e.fields.map p.dropDefaultSize }

/-- Makes the targets of the entity's relations unique, and drops sizes without effect. -/
def normalizeEntity (p : Platform) (name : String) : Edit Database Unit := fun db =>
  match db.entity? name with
  | none => .ok () db
  | some e =>
    match addMissingUniques (e.relations.filterMap (missingUnique? db)) db with
    | .error fault db => .error fault db
    | .ok _ db => .ok () (db.modifyEntity name p.dropUnusedSizes)

def normalizeEntities (p : Platform) : List String → Edit Database Unit
  | [] => pure ()
  | name :: rest => do
    p.normalizeEntity name
    p.normalizeEntities rest

def opening (p : Platform) : Script :=
  match p.dialect with
  | .mysql => [.foreignKeyChecks false]
  | _ => []

def closing (p : Platform) : Script :=
  match p.dialect with
  | .mysql => [.foreignKeyChecks true]
  | _ => []

def createEntity (p : Platform) (db : Database) (e : Entity) : Except Fault Script := do
  let created ← p.addEntity db e
  .ok (.heading e.table :: p.dropEntity e ++ created ++ p.addIndices e)

/-- Tables with their indices in order, then all foreign keys. -/
def createNormalized (p : Platform) (db : Database) (names : List String) :
    Except Fault Script := do
  let entities := names.filterMap db.entity?
  let tables ← entities.mapM (p.createEntity db)
  .ok (p.opening ++ tables.flatten ++ entities.flatMap (p.addForeignKeys db) ++ p.closing)

def createDatabase (p : Platform) (db : Database) : Except Fault Script := do
  let names := db.entitiesForSql.map (·.name)
  let normalized ← (p.normalizeEntities names).result db
  p.createNormalized normalized names

def creationText (p : Platform) (db : Database) : Except Fault String :=
  (p.createDatabase db).map p.scriptText

end Platform

end Tablecraft
