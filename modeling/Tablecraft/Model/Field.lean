import Tablecraft.Model.Domain
import Tablecraft.Model.Relation
import Tablecraft.Model.VendorOptions

namespace Tablecraft

structure Inheritance where
  key : String
  className : String
  ancestor : Option String := none
  deriving DecidableEq, Repr

/-- The owner's name and the position belong to the entity that has the field. -/
structure Field where
  name : String
  givenColumn : Option String := none
  domain : Domain
  /-- Counted from one within the owner; zero without an owner. -/
  position : Nat := 0
  entity : Option String := none
  description : Option String := none
  primaryKey : Bool := false
  autoIncrement : Bool := false
  unique : Bool := false
  declaredNotNull : Bool := false
  /-- The field only carries the value of a foreign key. -/
  implementationDetail : Bool := false
  inheritance : List Inheritance := []
  values : List String := []
  referrers : List RelationRef := []
  vendor : List VendorOptions := []
  deriving DecidableEq, Repr

namespace Field

def column (f : Field) : String := f.givenColumn.getD (Naming.snakeCase f.name)

def fieldType (f : Field) : FieldType := f.domain.fieldType

def notNull (f : Field) : Bool := f.declaredNotNull || f.primaryKey

def isInheritance (f : Field) : Bool := !f.inheritance.isEmpty

def addReferrer (r : RelationRef) (f : Field) : Field :=
  if r ∈ f.referrers then f else { f with referrers := f.referrers ++ [r] }

def detach (f : Field) : Field := { f with entity := none, position := 0 }

def hasText (description : Option String) : Bool := description.getD "" != ""

end Field

end Tablecraft
