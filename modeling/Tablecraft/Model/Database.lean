import Tablecraft.Dialect
import Tablecraft.Edit
import Tablecraft.Model.Entity

namespace Tablecraft

structure Database where
  name : String
  schema : Option String := none
  space : Option String := none
  parent : Option String := none
  dialect : Option Dialect := none
  entities : List Entity := []
  domains : NameMap Domain := ∅
  sequences : List String := []
  behaviors : List Behavior := []
  defaultIdMethod : IdMethod := .native
  heavyIndexing : Bool := false
  vendor : List VendorOptions := []
  deriving DecidableEq, Repr

/-- A many-to-many relation as one of its sides sees it: the pivot, its relation to that side, and
its other relations. -/
structure CrossRelation where
  middle : String
  incoming : RelationRef
  outgoing : List RelationRef
  deriving DecidableEq, Repr

def CrossRelation.isComposite (c : CrossRelation) : Bool := 1 < c.outgoing.length

namespace Database

def setName (name : String) (db : Database) : Database :=
  { db with
    name
    entities := db.entities.map fun e => { e with database := some name } }

/-- Lookup by short or qualified name. -/
def entity? (db : Database) (name : String) : Option Entity := db.entities.find? (·.isNamed name)

def position? (db : Database) (name : String) : Option Nat :=
  db.entities.findIdx? (·.isNamed name)

def hasEntity (db : Database) (name : String) : Bool := (db.entity? name).isSome

def entityNames (db : Database) : List String := db.entities.map (·.name)

def entityByTable? (db : Database) (table : String) : Option Entity :=
  db.entities.find? fun e => e.table == table || e.fullTable == table

/-- The entity as a part of this database, which supplies what the entity leaves open. -/
def adopt (db : Database) (e : Entity) : Entity :=
  { e with
    database := some db.name
    givenIdMethod := e.givenIdMethod <|> some db.defaultIdMethod
    schema := e.schema <|> db.schema
    space := e.space <|> db.space }

def addEntity (e : Entity) (db : Database) : Except Fault Database :=
  if db.hasEntity e.name then .error (.duplicateEntity db.name e.name)
  else .ok { db with entities := db.entities ++ [db.adopt e] }

def removeEntity? (db : Database) (name : String) : Option (Entity × Database) :=
  (FirstMatch.extract? (·.isNamed name) db.entities).map fun (e, rest) =>
    ({ e with database := none }, { db with entities := rest })

def modifyEntity (name : String) (f : Entity → Entity) (db : Database) : Database :=
  { db with entities := FirstMatch.modify (·.isNamed name) f db.entities }

def modifyEntityAt (position : Nat) (f : Entity → Entity) (db : Database) : Database :=
  { db with entities := db.entities.modify position f }

def editEntity (name : String) (edit : Edit Entity Unit) : Edit Database Unit :=
  Edit.within (·.entities) (fun db entities => { db with entities })
    (Edit.first (·.isNamed name) edit)

def entitiesForSql (db : Database) : List Entity := db.entities.filter (·.sqlEligible)

def relation? (db : Database) (r : RelationRef) : Option Relation :=
  (db.entity? r.entity).bind (·.relation? r.relation)

def inverseRelation? (db : Database) (entity relation : String) : Option Relation := do
  let owner ← db.entity? entity
  let r ← owner.relation? relation
  let foreign ← db.entity? r.foreignEntity
  foreign.relations.find? fun s => owner.isNamed s.foreignEntity && s.isInverseOf r

/-- The way through the pivot that the incoming relation belongs to, if it belongs to one. -/
def crossRelation? (db : Database) (incoming : RelationRef) : Option CrossRelation := do
  let middle ← db.entity? incoming.entity
  if middle.crossReference then
    let refs := middle.relations.map fun r => (⟨middle.name, r.name⟩ : RelationRef)
    some ⟨middle.name, incoming, refs.filter (·.relation != incoming.relation)⟩
  else none

def crossRelations (db : Database) (entity : String) : List CrossRelation :=
  match db.entity? entity with
  | some target => target.referrers.filterMap db.crossRelation?
  | none => []

def addDomain (d : Domain) (db : Database) : Database :=
  { db with domains := db.domains.insert d.name d }

def addSequence (name : String) (db : Database) : Database :=
  if db.sequences.contains name then db else { db with sequences := db.sequences ++ [name] }

def hasBehavior (db : Database) (id : String) : Bool := db.behaviors.any (·.id == id)

def addBehavior (b : Behavior) (db : Database) : Except Fault Database :=
  if b.clashes db.behaviors then .error (.duplicateBehavior db.name b.id)
  else .ok { db with behaviors := db.behaviors ++ [b] }

def propagateTo (b : Behavior) (e : Entity) : Entity :=
  if e.hasBehavior b.id then e else e.attachBehavior b.fresh

def propagate (b : Behavior) (db : Database) : Database :=
  { db with entities := db.entities.map (propagateTo b) }

end Database

end Tablecraft
