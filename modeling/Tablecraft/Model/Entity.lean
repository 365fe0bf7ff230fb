import Tablecraft.FirstMatch
import Tablecraft.Model.Behavior
import Tablecraft.Model.Field
import Tablecraft.Model.Index

namespace Tablecraft

inductive IdMethod
  | native
  | none
  deriving DecidableEq, Repr

namespace IdMethod

def name : IdMethod → String
  | native => "native"
  | none => "none"

def read (text : String) : Except Fault IdMethod :=
  let lower := Text.lower text
  if lower = "native" then .ok native
  else if lower = "none" then .ok none
  else .error (.unknownIdMethod lower)

end IdMethod

structure Entity where
  name : String
  givenTable : Option String := none
  space : Option String := none
  schema : Option String := none
  description : Option String := none
  database : Option String := none
  fields : List Field := []
  relations : List Relation := []
  referrers : List RelationRef := []
  indices : List Index := []
  uniques : List Index := []
  behaviors : List Behavior := []
  vendor : List VendorOptions := []
  givenIdMethod : Option IdMethod := none
  idMethodParameter : Option String := none
  chosenSequence : Option String := none
  /-- None leaves the decision to the database. -/
  heavyIndexing : Option Bool := none
  skipSql : Bool := false
  /-- The entity whose table this one shares. -/
  aliasOf : Option String := none
  referenceOnly : Bool := false
  crossReference : Bool := false
  containsForeignKey : Bool := false
  needsTransaction : Bool := false
  givenPrimaryKeyName : Option String := none
  nameLimit : Nat := Naming.defaultLimit
  deriving DecidableEq, Repr

namespace Entity

def qualify (qualifier : Option String) (name : String) : String :=
  if qualifier.getD "" = "" then name else qualifier.getD "" ++ "." ++ name

def fullName (e : Entity) : String := qualify e.space e.name

def table (e : Entity) : String := e.givenTable.getD e.name

def fullTable (e : Entity) : String := qualify e.schema e.table

def isNamed (e : Entity) (name : String) : Bool := e.name == name || e.fullName == name

def rewire (e : Entity) : Entity :=
  { e with
    fields := e.fields.map fun f => { f with entity := some e.name }
    indices := e.indices.map fun i => { i with table := some e.table }
    uniques := e.uniques.map fun i => { i with table := some e.table }
    relations := e.relations.map fun r => r.setOwner (some e.name) (some e.table) }

def setName (name : String) (e : Entity) : Entity := rewire { e with name }

def setTable (table : Option String) (e : Entity) : Entity := rewire { e with givenTable := table }

def setNameLimit (limit : Nat) (e : Entity) : Entity :=
  { e with
    nameLimit := limit
    indices := e.indices.map fun i => { i with nameLimit := limit }
    uniques := e.uniques.map fun i => { i with nameLimit := limit }
    relations := e.relations.map fun r => { r with nameLimit := limit } }

def primaryKeyName (e : Entity) : String := e.givenPrimaryKeyName.getD (e.table ++ "_pk")

/-- The sequence chosen by finalization, else the parameter of the id method, else one named after
the table. -/
def sequenceName (e : Entity) : String :=
  (e.chosenSequence <|> e.idMethodParameter).getD (e.table ++ "_SEQ")

/-- The entity under another table name; every constraint keeps the name that it had. -/
def retabled (e : Entity) (table : String) : Entity :=
  setTable (some table)
    { e with
      givenPrimaryKeyName := some e.primaryKeyName
      indices := e.indices.map Index.pinName
      uniques := e.uniques.map Index.pinName
      relations := e.relations.map Relation.pinName }

def field? (e : Entity) (name : String) : Option Field := e.fields.find? (·.name == name)

def hasField (e : Entity) (name : String) : Bool := (e.field? name).isSome

def fieldByColumn? (e : Entity) (column : String) : Option Field :=
  e.fields.find? fun f => Text.sameIgnoringAsciiCase f.column column

def modifyField (name : String) (f : Field → Field) (e : Entity) : Entity :=
  { e with fields := FirstMatch.modify (·.name == name) f e.fields }

def inheritanceField? (e : Entity) : Option Field := e.fields.find? (·.isInheritance)

def isForeignKeyField (e : Entity) (name : String) : Bool :=
  e.relations.any fun r => r.localFields.contains name

def appendField (e : Entity) (f : Field) : Entity :=
  { e with
    fields := e.fields ++ [{ f with position := e.fields.length + 1, entity := some e.name }]
    needsTransaction := e.needsTransaction || f.fieldType.needsTransaction
    containsForeignKey :=
      e.containsForeignKey || (f.primaryKey && e.isForeignKeyField f.name) }

/-- Refuses a second field of a name, and a second inheritance field. -/
def addField (f : Field) (e : Entity) : Except Fault Entity :=
  if e.hasField f.name then .error (.duplicateField e.name f.name)
  else
    match if f.isInheritance then e.inheritanceField? else none with
    | some existing => .error (.duplicateInheritance e.name existing.name f.name)
    | none => .ok (e.appendField f)

def renumber (fields : List Field) : List Field :=
  fields.mapIdx fun i f => { f with position := i + 1 }

def removeField? (e : Entity) (name : String) : Option (Field × Entity) :=
  (FirstMatch.extract? (·.name == name) e.fields).map fun (f, rest) =>
    (f.detach, { e with fields := renumber rest })

def primaryKey (e : Entity) : List Field := e.fields.filter (·.primaryKey)

def primaryKeyNames (e : Entity) : List String := e.primaryKey.map (·.name)

def hasPrimaryKey (e : Entity) : Bool := e.fields.any (·.primaryKey)

def hasCompositePrimaryKey (e : Entity) : Bool := 1 < e.primaryKey.length

def autoIncrementField? (e : Entity) : Option Field := e.fields.find? (·.autoIncrement)

def hasAutoIncrement (e : Entity) : Bool := e.autoIncrementField?.isSome

def hasAutoIncrementPrimaryKey (e : Entity) : Bool :=
  e.fields.any fun f => f.primaryKey && f.autoIncrement

def idMethod (e : Entity) : IdMethod := e.givenIdMethod.getD .native

def setIdMethod (m : IdMethod) (e : Entity) : Entity := { e with givenIdMethod := some m }

def allIndices (e : Entity) : List Index := e.indices ++ e.uniques

/-- The list in the place of all indices; as many as before are no unique constraints. -/
def setAllIndices (indices : List Index) (e : Entity) : Entity :=
  { e with
    indices := indices.take e.indices.length
    uniques := indices.drop e.indices.length }

def hasIndex (e : Entity) (name : String) : Bool := e.allIndices.any (·.name == name)

/-- The index as a part of this entity, if it may become one. -/
def admitIndex (e : Entity) (i : Index) : Except Fault Index :=
  let i := { i with table := some e.table, nameLimit := e.nameLimit }
  if i.members.isEmpty then .error (.emptyIndex e.name i.name)
  else
    match i.members.find? fun m => !e.hasField m.name with
    | some missing => .error (.unknownField e.name missing.name (.index i.name))
    | none => if e.hasIndex i.name then .error (.duplicateIndex e.name i.name) else .ok i

def addIndex (i : Index) (e : Entity) : Except Fault Entity :=
  (e.admitIndex i).map fun i => { e with indices := e.indices ++ [i] }

def addUnique (i : Index) (e : Entity) : Except Fault Entity :=
  (e.admitIndex i).map fun i => { e with uniques := e.uniques ++ [i] }

/-- The index without an owner, under the name that it had. -/
def detachIndex (i : Index) : Index := { i.pinName with table := none }

def removeIndex? (e : Entity) (name : String) : Option (Index × Entity) :=
  match FirstMatch.extract? (·.name == name) e.indices with
  | some (i, rest) => some (detachIndex i, { e with indices := rest })
  | none =>
    (FirstMatch.extract? (·.name == name) e.uniques).map fun (i, rest) =>
      (detachIndex i, { e with uniques := rest })

def isIndexed (e : Entity) (names : List String) : Bool :=
  !names.isEmpty &&
    (names.isPrefixOf e.primaryKeyNames || e.allIndices.any (·.coversPrefix names))

def sameMembers (names members : List String) : Bool :=
  members.length == names.length && names.all members.contains

/-- The fields are the primary key or the members of a unique constraint, in any order. -/
def isUniqueOn (e : Entity) (names : List String) : Bool :=
  sameMembers names e.primaryKeyNames || e.uniques.any fun u => sameMembers names u.memberNames

def addRelation (r : Relation) (e : Entity) : Entity :=
  let r := { r.setOwner (some e.name) (some e.table) with nameLimit := e.nameLimit }
  let touchesKey := r.localFields.any fun name =>
    match e.field? name with
    | some f => f.primaryKey
    | none => false
  { e with
    relations := e.relations ++ [r]
    containsForeignKey := e.containsForeignKey || touchesKey }

def removeRelation? (e : Entity) (name : String) : Option (Relation × Entity) :=
  (FirstMatch.extract? (·.name == name) e.relations).map fun (r, rest) =>
    (r.pinName.setOwner none none, { e with relations := rest })

def relation? (e : Entity) (name : String) : Option Relation :=
  e.relations.find? (·.name == name)

def modifyRelation (name : String) (f : Relation → Relation) (e : Entity) : Entity :=
  { e with relations := FirstMatch.modify (·.name == name) f e.relations }

def modifyRelationAt (position : Nat) (f : Relation → Relation) (e : Entity) : Entity :=
  { e with relations := e.relations.modify position f }

def relationsTo (e : Entity) (foreign : String) : List Relation :=
  e.relations.filter (·.foreignEntity == foreign)

def hasReferrer (e : Entity) (r : RelationRef) : Bool := r ∈ e.referrers

def addReferrer (r : RelationRef) (e : Entity) : Entity :=
  if r ∈ e.referrers then e else { e with referrers := e.referrers ++ [r] }

def clearReferrers (e : Entity) : Entity :=
  { e with referrers := [], fields := e.fields.map fun f => { f with referrers := [] } }

def hasBehavior (e : Entity) (id : String) : Bool := e.behaviors.any (·.id == id)

def behavior? (e : Entity) (id : String) : Option Behavior := e.behaviors.find? (·.id == id)

def attachBehavior (b : Behavior) (e : Entity) : Entity :=
  { e with behaviors := e.behaviors ++ [{ b with entity := some e.name }] }

def addBehavior (b : Behavior) (e : Entity) : Except Fault Entity :=
  if b.clashes e.behaviors then .error (.duplicateBehavior e.name b.id)
  else .ok (e.attachBehavior b)

def sqlEligible (e : Entity) : Bool := !e.skipSql && !e.referenceOnly && e.aliasOf.isNone

end Entity

namespace Relation

def matchesLocalPrimaryKey (r : Relation) (owner : Entity) : Bool :=
  sameKeys r.localFields owner.primaryKeyNames

def matchesForeignPrimaryKey (r : Relation) (foreign : Entity) : Bool :=
  sameKeys r.foreignFields foreign.primaryKeyNames

end Relation

end Tablecraft
