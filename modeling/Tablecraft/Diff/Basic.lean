import Tablecraft.Model.Database

namespace Tablecraft

structure NamePair where
  source : String
  target : String
  deriving DecidableEq, Repr

namespace NamePair

def same (name : String) : NamePair := ⟨name, name⟩

def isRename (p : NamePair) : Bool := p.source != p.target

def swap (p : NamePair) : NamePair := ⟨p.target, p.source⟩

end NamePair

structure EntityDiff where
  source : String
  target : String
  addedFields : List String := []
  removedFields : List String := []
  renamedFields : List NamePair := []
  modifiedFields : List NamePair := []
  modifiedPrimaryKey : Bool := false
  addedIndices : List String := []
  removedIndices : List String := []
  modifiedIndices : List NamePair := []
  addedRelations : List String := []
  removedRelations : List String := []
  modifiedRelations : List NamePair := []
  deriving DecidableEq, Repr

namespace EntityDiff

def ofName (name : String) : EntityDiff := { source := name, target := name }

def isEmpty (d : EntityDiff) : Bool :=
  d.addedFields.isEmpty && d.removedFields.isEmpty && d.renamedFields.isEmpty &&
    d.modifiedFields.isEmpty && !d.modifiedPrimaryKey && d.addedIndices.isEmpty &&
    d.removedIndices.isEmpty && d.modifiedIndices.isEmpty && d.addedRelations.isEmpty &&
    d.removedRelations.isEmpty && d.modifiedRelations.isEmpty

/-- Indices whose old form goes: removed ones, then those that change. -/
def droppedIndices (d : EntityDiff) : List String :=
  d.removedIndices ++ d.modifiedIndices.map (·.source)

/-- Indices whose new form comes: those that change, then added ones. -/
def createdIndices (d : EntityDiff) : List String :=
  d.modifiedIndices.map (·.target) ++ d.addedIndices

def droppedRelations (d : EntityDiff) : List String :=
  d.removedRelations ++ d.modifiedRelations.map (·.source)

def createdRelations (d : EntityDiff) : List String :=
  d.modifiedRelations.map (·.target) ++ d.addedRelations

end EntityDiff

structure DatabaseDiff where
  source : Database
  target : Database
  addedEntities : List String := []
  removedEntities : List String := []
  renamedEntities : List NamePair := []
  modifiedEntities : List EntityDiff := []
  deriving DecidableEq, Repr

def Database.findEntity (db : Database) (side : Side) (name : String) : Except Fault Entity :=
  match db.entity? name with
  | some e => .ok e
  | none => .error (.invalidDiff (.entity name side db.name))

namespace Entity

def findField (e : Entity) (name : String) : Except Fault Field :=
  match e.field? name with
  | some f => .ok f
  | none => .error (.invalidDiff (.field name e.name))

def findIndex (e : Entity) (name : String) : Except Fault Index :=
  match e.allIndices.find? (·.name == name) with
  | some i => .ok i
  | none => .error (.invalidDiff (.index name e.name))

def findRelation (e : Entity) (name : String) : Except Fault Relation :=
  match e.relation? name with
  | some r => .ok r
  | none => .error (.invalidDiff (.relation name e.name))

end Entity

namespace DatabaseDiff

def isEmpty (d : DatabaseDiff) : Bool :=
  d.addedEntities.isEmpty && d.removedEntities.isEmpty && d.renamedEntities.isEmpty &&
    d.modifiedEntities.all EntityDiff.isEmpty

def sourceNamed (d : DatabaseDiff) (name : String) : Except Fault Entity :=
  d.source.findEntity .source name

def targetNamed (d : DatabaseDiff) (name : String) : Except Fault Entity :=
  d.target.findEntity .target name

/-- The old entity as it stands once the renames of this difference have run: the old constraint
names on the new table. -/
def renamedSource (d : DatabaseDiff) (e : EntityDiff) : Except Fault Entity := do
  let source ← d.sourceNamed e.source
  match d.renamedEntities.find? (·.source == e.source) with
  | none => .ok source
  | some pair =>
    let target ← d.targetNamed pair.target
    .ok (if target.table = source.table then source else source.retabled target.table)

end DatabaseDiff

end Tablecraft
