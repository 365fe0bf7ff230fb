import Tablecraft.Behavior.Effect
import Tablecraft.Document.Basic
import Tablecraft.Model.Schema

namespace Tablecraft

namespace Document

def buildVendor (d : Vendor) : VendorOptions := ⟨d.dialect, d.parameters⟩

def buildBehavior (registry : Registry) (d : Behavior) : Except Fault Tablecraft.Behavior := do
  let b ← registry.create d.name
  let b := { b with id := d.id.getD b.id }
  .ok (d.parameters.entries.foldl (fun b p => b.setParameter p.1 p.2) b)

def overrideSqlType (sqlType : Option String) (d : Tablecraft.Domain) : Tablecraft.Domain :=
  match sqlType with
  | some t => d.replaceSqlType t
  | none => d

def buildDomain (d : Domain) : Except Fault Tablecraft.Domain := do
  let fieldType ← FieldType.read d.fieldType
  .ok (overrideSqlType d.sqlType
    { name := d.name, fieldType, size := d.size, scale := d.scale
      default := d.default.map .literal, description := d.description })

/-- The declared domain of the field, with the field's type in the place of the domain's if both are
given, or the domain of its type. -/
def baseDomain (db : Tablecraft.Database) (entity : String) (d : Field) :
    Except Fault Tablecraft.Domain :=
  match d.domain, d.fieldType with
  | some name, given =>
    match db.domains.get? name with
    | none => .error (.unknownDomain name (.field entity d.name) db.domains.names)
    | some domain =>
      match given with
      | none => .ok domain
      | some t => (FieldType.read t).map fun t => { domain with fieldType := t }
  | none, some t => (FieldType.read t).map Tablecraft.Domain.ofType
  | none, none => .error (.untypedField entity d.name)

def ownDefault? (d : Field) : Option DefaultValue :=
  d.defaultExpression.map .expression <|> d.default.map .literal

def buildField (db : Tablecraft.Database) (entity : String) (d : Field) :
    Except Fault Tablecraft.Field := do
  let base ← baseDomain db entity d
  let typed := overrideSqlType d.sqlType base
  .ok
    { name := d.name
      givenColumn := d.column
      domain :=
        { typed with
          size := d.size <|> typed.size
          scale := d.scale <|> typed.scale
          default := ownDefault? d <|> typed.default }
      description := d.description
      primaryKey := d.primaryKey
      autoIncrement := d.autoIncrement
      unique := d.unique
      declaredNotNull := d.notNull
      values := d.values
      inheritance := d.inheritance.map fun i => { key := i.key, className := i.className }
      vendor := d.vendor.map buildVendor }

def buildIndex (unique : Bool) (d : Index) : Tablecraft.Index :=
  { givenName := d.name
    unique
    members := d.fields.map fun m => { name := m.name, size := m.size }
    vendor := d.vendor.map buildVendor }

def buildAction : Option String → Except Fault RelationAction
  | some action => RelationAction.read action
  | none => .ok .none

def buildRelation (d : Relation) : Except Fault Tablecraft.Relation := do
  let onDelete ← buildAction d.onDelete
  let onUpdate ← buildAction d.onUpdate
  .ok
    { givenName := d.name, givenField := d.field, foreignEntity := d.foreignEntity
      references := d.references, onDelete, onUpdate, skipSql := d.skipSql }

def buildIdMethod : Option String → Except Fault (Option IdMethod)
  | some m => (IdMethod.read m).map some
  | none => .ok none

def buildEntity (registry : Registry) (db : Tablecraft.Database) (d : Entity) :
    Except Fault Tablecraft.Entity := do
  let idMethod ← buildIdMethod d.idMethod
  let entity : Tablecraft.Entity :=
    { name := d.name
      givenTable := d.table
      space := d.space
      schema := d.schema
      description := d.description
      givenIdMethod := idMethod
      idMethodParameter := d.idMethodParameter
      heavyIndexing := d.heavyIndexing
      skipSql := d.skipSql
      referenceOnly := d.referenceOnly
      aliasOf := d.aliasOf
      crossReference := d.crossReference
      vendor := d.vendor.map buildVendor }
  let entity ← d.fields.foldlM (fun e f => do e.addField (← buildField db d.name f)) entity
  let entity ← d.indices.foldlM (fun e i => e.addIndex (buildIndex false i)) entity
  let entity ← d.uniques.foldlM (fun e i => e.addUnique (buildIndex true i)) entity
  let entity ← d.relations.foldlM (fun e r => do return e.addRelation (← buildRelation r)) entity
  d.behaviors.foldlM (fun e b => do e.addBehavior (← buildBehavior registry b)) entity

def buildDialect : Option String → Except Fault (Option Dialect)
  | some platform => (Dialect.read platform).map some
  | none => .ok none

def buildDatabase (registry : Registry) (d : Database) : Except Fault Tablecraft.Database := do
  let dialect ← buildDialect d.platform
  let idMethod ← buildIdMethod d.defaultIdMethod
  let db : Tablecraft.Database :=
    { name := d.name
      schema := d.schema
      space := d.space
      dialect
      defaultIdMethod := idMethod.getD .native
      heavyIndexing := d.heavyIndexing
      vendor := d.vendor.map buildVendor }
  let db ← d.domains.foldlM (fun db domain => do return db.addDomain (← buildDomain domain)) db
  let db := d.sequences.foldl (fun db name => db.addSequence name) db
  let db ← d.behaviors.foldlM (fun db b => do db.addBehavior (← buildBehavior registry b)) db
  d.entities.foldlM (fun db e => do db.addEntity (← buildEntity registry db e)) db

end Document

namespace SchemaDocument

mutual

def build (registry : Registry) : SchemaDocument → Except Fault Schema
  | ⟨name, databases, externals⟩ => do
    let schema ← databases.foldlM
      (fun (s : Schema) d => do s.addDatabase (← Document.buildDatabase registry d)) { name }
    let externals ← buildAll registry externals
    .ok { schema with externals }

def buildAll (registry : Registry) : List SchemaDocument → Except Fault (List Schema)
  | [] => .ok []
  | d :: rest => do
    let schema ← build registry d
    let schemas ← buildAll registry rest
    .ok (schema :: schemas)

end

end SchemaDocument

end Tablecraft
