import Tablecraft.Diff.Basic

namespace Tablecraft

def Field.sameStorage (f g : Field) : Bool :=
  f.column == g.column && f.fieldType == g.fieldType &&
    f.domain.sqlType == g.domain.sqlType && f.domain.size == g.domain.size &&
    f.domain.scale == g.domain.scale && f.notNull == g.notNull &&
    f.autoIncrement == g.autoIncrement && f.unique == g.unique &&
    DefaultValue.agreesOption f.domain.default g.domain.default && f.values == g.values

def Index.sameShape (i j : Index) : Bool := i.members == j.members && i.unique == j.unique

def Relation.sameShape (r s : Relation) : Bool :=
  r.foreignTableName == s.foreignTableName && r.localFields == s.localFields &&
    r.foreignFields == s.foreignFields && r.onDelete == s.onDelete && r.onUpdate == s.onUpdate

namespace Compare

variable {α : Type}

def missing (name : α → String) (present others : List α) : List String :=
  (present.map name).filter fun n => !others.any fun x => name x == n

def modified? (name : α → String) (same : α → α → Bool) (source : List α) (x : α) :
    Option NamePair :=
  match source.find? fun y => name y == name x with
  | some y => if same y x then none else some (.same (name x))
  | none => none

/-- The names of the new elements whose old namesake differs. -/
def modified (name : α → String) (same : α → α → Bool) (source target : List α) : List NamePair :=
  target.filterMap (modified? name same source)

end Compare

open Compare

namespace EntityDiff

def compare (a b : Entity) : EntityDiff :=
  { source := a.name
    target := b.name
    addedFields := missing Field.name b.fields a.fields
    removedFields := missing Field.name a.fields b.fields
    modifiedFields := modified Field.name Field.sameStorage a.fields b.fields
    modifiedPrimaryKey := a.primaryKeyNames != b.primaryKeyNames
    addedIndices := missing Index.name b.allIndices a.allIndices
    removedIndices := missing Index.name a.allIndices b.allIndices
    modifiedIndices := modified Index.name Index.sameShape a.allIndices b.allIndices
    addedRelations := missing Relation.name b.relations a.relations
    removedRelations := missing Relation.name a.relations b.relations
    modifiedRelations := modified Relation.name Relation.sameShape a.relations b.relations }

end EntityDiff

namespace DatabaseDiff

def changesOf? (source : Database) (e : Entity) : Option EntityDiff :=
  match source.entity? e.name with
  | some old =>
    let diff := EntityDiff.compare old e
    if diff.isEmpty then none else some diff
  | none => none

def unknownTo (other : Database) (db : Database) : List String :=
  (db.entitiesForSql.map (·.name)).filter fun name => !other.hasEntity name

def compare (source target : Database) : DatabaseDiff :=
  { source, target
    addedEntities := unknownTo source target
    removedEntities := unknownTo target source
    modifiedEntities := target.entitiesForSql.filterMap (changesOf? source) }

end DatabaseDiff

end Tablecraft
