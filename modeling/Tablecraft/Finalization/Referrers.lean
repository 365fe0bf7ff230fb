import Tablecraft.Finalization.References

namespace Tablecraft.Finalization

structure Registration where
  foreign : String
  reference : RelationRef
  fields : List String
  deriving DecidableEq, Repr

def checkForeignFields (e foreign : Entity) (r : Relation) : Except Fault Unit :=
  match r.foreignFields.find? fun name => !foreign.hasField name with
  | some name => .error (.unknownField foreign.name name (.relationOf r.name e.name))
  | none => .ok ()

def registrationOf (db : Database) (e : Entity) (r : Relation) : Except Fault Registration := do
  let foreign ← foreignOf db e r
  checkForeignFields e foreign r
  .ok ⟨foreign.name, ⟨e.name, r.name⟩, r.foreignFields⟩

def register (r : Registration) (foreign : Entity) : Entity :=
  r.fields.foldl (fun e name => e.modifyField name (Field.addReferrer r.reference))
    (foreign.addReferrer r.reference)

def registerAll (registrations : List Registration) (db : Database) : Database :=
  registrations.foldl (fun db r => db.modifyEntity r.foreign (register r)) db

/-- Some local field of some relation belongs to the primary key. -/
def keepsKeyInRelation (e : Entity) : Bool :=
  e.relations.any fun r => r.localFields.any (isPrimaryKeyOf e)

def markForeignKey (name : String) (e : Entity) (db : Database) : Database :=
  if keepsKeyInRelation e then
    db.modifyEntity name fun e => { e with containsForeignKey := true }
  else db

def registerRelationsOf (name : String) : Edit Database Unit :=
  Edit.attempt fun db =>
    match db.entity? name with
    | none => .ok db
    | some e => do
      let registrations ← e.relations.mapM (registrationOf db e)
      .ok (registerAll registrations (markForeignKey name e db))

end Tablecraft.Finalization
