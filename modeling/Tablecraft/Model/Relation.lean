import Tablecraft.Fault
import Tablecraft.Naming

namespace Tablecraft

inductive RelationAction
  | none
  | cascade
  | restrict
  | setNull
  | setDefault
  | noAction
  deriving DecidableEq, Repr

namespace RelationAction

def sql : RelationAction → String
  | none => ""
  | cascade => "CASCADE"
  | restrict => "RESTRICT"
  | setNull => "SET NULL"
  | setDefault => "SET DEFAULT"
  | noAction => "NO ACTION"

def ofWords? : String → Option RelationAction
  | "" | "NONE" => some none
  | "CASCADE" => some cascade
  | "RESTRICT" => some restrict
  | "SETNULL" => some setNull
  | "SETDEFAULT" => some setDefault
  | "NOACTION" => some noAction
  | _ => Option.none

def read (text : String) : Except Fault RelationAction :=
  let words := Text.without (fun c => c = '_' || c = ' ') (Text.upper (Text.trim text))
  match ofWords? words with
  | some action => .ok action
  | Option.none => .error (.invalidAction text)

end RelationAction

/-- A relation by the names of its owner and its own. -/
structure RelationRef where
  entity : String
  relation : String
  deriving DecidableEq, Repr

structure Relation where
  givenName : Option String := none
  givenField : Option String := none
  entity : Option String := none
  table : Option String := none
  foreignEntity : String
  /-- The full table name of the foreign entity, once it is resolved. -/
  foreignTable : Option String := none
  references : List (String × String) := []
  onDelete : RelationAction := .none
  onUpdate : RelationAction := .none
  skipSql : Bool := false
  nameLimit : Nat := Naming.defaultLimit
  deriving DecidableEq, Repr

namespace Relation

def localFields (r : Relation) : List String := r.references.map Prod.fst

def foreignFields (r : Relation) : List String := r.references.map Prod.snd

def foreignTableName (r : Relation) : String := r.foreignTable.getD r.foreignEntity

def generatedName (r : Relation) : String :=
  Naming.hashedName r.table "fk_"
    [r.foreignTableName, Text.joinWith "," r.localFields, Text.joinWith "," r.foreignFields]
    r.nameLimit

def name (r : Relation) : String := r.givenName.getD r.generatedName

def isAutoNamed (r : Relation) : Bool := r.givenName.isNone

def pinName (r : Relation) : Relation := { r with givenName := some r.name }

/-- The part of a qualified name after the last dot. -/
def shortName (name : String) : String :=
  match Text.splitAtLast? ['.'] name.toList with
  | some (_, short) => String.ofList short
  | none => name

def fieldName (r : Relation) : String :=
  r.givenField.getD (Text.uncapitalize (shortName r.foreignEntity))

def setForeignEntity (r : Relation) (entity : String) : Relation :=
  { r with foreignEntity := entity, foreignTable := none }

def setOwner (r : Relation) (entity table : Option String) : Relation := { r with entity, table }

def addReference (r : Relation) (localField foreignField : String) : Relation :=
  { r with references := r.references ++ [(localField, foreignField)] }

def hasReferences (r : Relation) : Bool := !r.references.isEmpty

def isComposite (r : Relation) : Bool := 1 < r.references.length

def localFieldFor? (r : Relation) (foreignField : String) : Option String :=
  (r.references.find? (·.2 == foreignField)).map Prod.fst

def foreignFieldFor? (r : Relation) (localField : String) : Option String :=
  (r.references.find? (·.1 == localField)).map Prod.snd

def sameKeys (fields keys : List String) : Bool :=
  !keys.isEmpty && fields.length == keys.length && fields.all keys.contains

/-- Each relation maps the fields of the other back. -/
def isInverseOf (r s : Relation) : Bool :=
  r.localFields == s.foreignFields && r.foreignFields == s.localFields

@[simp] theorem name_pinName (r : Relation) : r.pinName.name = r.name := rfl

theorem length_localFields (r : Relation) : r.localFields.length = r.foreignFields.length := by
  simp [localFields, foreignFields]

end Relation

end Tablecraft
