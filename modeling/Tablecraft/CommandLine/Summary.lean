import Tablecraft.Finalization.Basic

namespace Tablecraft

def line (text : String) : String := text ++ "\n"

def Field.flags (f : Field) : List String :=
  (if f.primaryKey then ["pk"] else []) ++ (if f.autoIncrement then ["auto"] else []) ++
    (if f.notNull then ["not null"] else []) ++
    (if f.implementationDetail then ["synthesized"] else [])

def Field.summary (f : Field) : String :=
  line ("    " ++ Text.padRight 24 f.column ++ " " ++ Text.padRight 12 f.fieldType.name ++ " " ++
    Text.joinWith ", " f.flags)

def Relation.summary (r : Relation) : String :=
  line ("    -> " ++ r.foreignTableName ++ " (" ++ Text.joinWith ", " r.localFields ++ " -> " ++
    Text.joinWith ", " r.foreignFields ++ ")")

def RelationRef.summary (r : RelationRef) : String :=
  line ("    <- " ++ r.entity ++ "." ++ r.relation)

def Entity.summary (e : Entity) : String :=
  line ("  " ++ e.table ++ if e.sqlEligible then "" else " [skip]") ++
    Text.concat (e.fields.map Field.summary) ++
    Text.concat (e.relations.map Relation.summary) ++
    Text.concat (e.referrers.map RelationRef.summary)

def Database.summary (p : Platform) (db : Database) : String :=
  line ("Database " ++ db.name ++ " (" ++ p.name ++ ")") ++
    Text.concat (db.entities.map Entity.summary)

end Tablecraft
