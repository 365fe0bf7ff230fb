import Tablecraft.Model.Database

namespace Tablecraft.Finalization

def foreignOf (db : Database) (e : Entity) (r : Relation) : Except Fault Entity :=
  match db.entity? r.foreignEntity with
  | some foreign => .ok foreign
  | none => .error (.unknownEntity r.foreignEntity (.relationOf r.name e.name) db.entityNames)

def checkLocalFields (e : Entity) (r : Relation) : Except Fault Unit :=
  match r.localFields.find? fun name => !e.hasField name with
  | some name => .error (.unknownField e.name name (.relation r.name))
  | none => .ok ()

def isPrimaryKeyOf (foreign : Entity) (name : String) : Bool :=
  match foreign.field? name with
  | some f => f.primaryKey
  | none => false

/-- The local fields that point at primary key fields, unless they are the owner's own key. -/
def carriers (e foreign : Entity) (r : Relation) : List String :=
  if r.matchesLocalPrimaryKey e then []
  else (r.references.filter fun pair => isPrimaryKeyOf foreign pair.2).map Prod.fst

def markCarriers (names : List String) (e : Entity) : Entity :=
  names.foldl
    (fun e name => e.modifyField name fun f => { f with implementationDetail := true }) e

/-- A field named after the relation and the foreign key field, with the domain of the latter. -/
def synthesize (r : Relation) (key : Field) : Field :=
  { name := Text.uncapitalize r.fieldName ++ Naming.studlyCase key.name
    domain := key.domain
    implementationDetail := true }

def synthesizeAll (e foreign : Entity) (r : Relation) : Except Fault (List (Field × String)) := do
  if foreign.primaryKey.isEmpty then
    .error (.missingForeignPrimaryKey e.name r.name foreign.name)
  else
    foreign.primaryKey.mapM fun key =>
      let f := synthesize r key
      if e.hasField f.name then
        .error (.synthesizedFieldCollision e.name r.name f.name)
      else .ok (f, key.name)

def addReferences (relation : Nat) : List (Field × String) → Edit Entity Unit
  | [] => pure ()
  | (f, foreignField) :: rest => do
    Edit.attempt fun e => do
      let e ← e.addField f
      .ok (e.modifyRelationAt relation fun r => r.addReference f.name foreignField)
    addReferences relation rest

def setForeignTable (relation : Nat) (foreign : Entity) : Edit Entity Unit :=
  Edit.succeed fun e =>
    e.modifyRelationAt relation fun r => { r with foreignTable := some foreign.fullTable }

def settleReferences (e foreign : Entity) (relation : Nat) (r : Relation) :
    Except Fault (Edit Entity Unit) := do
  if r.hasReferences then
    checkLocalFields e r
    .ok do
      Edit.succeed (markCarriers (carriers e foreign r))
      setForeignTable relation foreign
  else
    let fields ← synthesizeAll e foreign r
    .ok do
      addReferences relation fields
      setForeignTable relation foreign

def editAt (position : Nat) (edit : Edit Entity Unit) : Edit Database Unit := fun db =>
  match db.entities[position]? with
  | none => .ok () db
  | some e =>
    match edit e with
    | .error fault e => .error fault (db.modifyEntityAt position fun _ => e)
    | .ok _ e => .ok () (db.modifyEntityAt position fun _ => e)

def settleRelation (position relation : Nat) : Edit Database Unit := fun db =>
  match db.entities[position]? with
  | none => .ok () db
  | some e =>
    match e.relations[relation]? with
    | none => .ok () db
    | some r =>
      match foreignOf db e r with
      | .error fault => .error fault db
      | .ok foreign =>
        match settleReferences e foreign relation r with
        | .error fault => .error fault db
        | .ok edit => editAt position edit db

def settleRelations (position : Nat) : List Nat → Edit Database Unit
  | [] => pure ()
  | relation :: rest => do
    settleRelation position relation
    settleRelations position rest

def settleRelationsOf (name : String) : Edit Database Unit := fun db =>
  match db.position? name with
  | none => .ok () db
  | some position =>
    match db.entities[position]? with
    | none => .ok () db
    | some e => settleRelations position (List.range e.relations.length) db

end Tablecraft.Finalization
