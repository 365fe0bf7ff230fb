import Tablecraft.Dialect
import Tablecraft.Edit
import Tablecraft.Model.Entity

namespace Tablecraft.Finalization

def unconstrained (e : Entity) : List String :=
  (e.fields.filter fun f => f.unique && !e.isUniqueOn [f.name]).map (·.name)

def addUniques : List String → Edit Entity Unit
  | [] => pure ()
  | name :: rest => do
    Edit.attempt (Entity.addUnique (Index.uniqueOfNames [name]))
    addUniques rest

def constrainUniqueFields : Edit Entity Unit := fun e => addUniques (unconstrained e) e

def properSuffixes (names : List String) : List (List String) :=
  (List.range (names.length - 1)).map fun i => names.drop (i + 1)

def indexIfMissing (names : List String) : Edit Entity Unit :=
  Edit.attempt fun e => if e.isIndexed names then .ok e else e.addIndex (Index.ofNames names)

def indexMissing : List (List String) → Edit Entity Unit
  | [] => pure ()
  | names :: rest => do
    indexIfMissing names
    indexMissing rest

/-- An index over every end of the primary key that nothing else starts with. -/
def indexKeySuffixes : Edit Entity Unit := fun e =>
  indexMissing (properSuffixes e.primaryKeyNames) e

def settleIdMethod (e : Entity) : Entity :=
  if e.idMethod = .native && !e.hasAutoIncrement then e.setIdMethod .none else e

def settleEntity (p : Platform) (heavyIndexing : Bool) : Edit Entity Unit := do
  Edit.succeed (Entity.setNameLimit p.maxIdentifierLength)
  constrainUniqueFields
  fun e => if e.heavyIndexing.getD heavyIndexing then indexKeySuffixes e else .ok () e
  Edit.succeed settleIdMethod

end Tablecraft.Finalization
