import Tablecraft.NameMap
import Tablecraft.Text.Case

namespace Tablecraft

def defaultModificationOrder : Int := 50

structure Behavior where
  /-- Two behaviors of one owner with the same identifier are the same behavior. -/
  id : String
  name : String
  parameters : NameMap String := ∅
  order : Int := defaultModificationOrder
  applied : Bool := false
  entity : Option String := none
  repeatable : Bool := false
  /-- The name under which the effect is found; none for a behavior without effect. -/
  effect : Option String := none
  deriving DecidableEq, Repr

namespace Behavior

def plain (name : String) : Behavior := { id := name, name }

/-- Names of parameters are compared in lower case. -/
def parameter? (b : Behavior) (name : String) : Option String :=
  b.parameters.get? (Text.lower name)

/-- A missing value leaves the parameter as it is. -/
def setParameter (b : Behavior) (name : String) : Option String → Behavior
  | some value => { b with parameters := b.parameters.insert (Text.lower name) value }
  | none => b

def isParameterTrue (b : Behavior) (name : String) : Bool :=
  match b.parameter? name with
  | some value => ["true", "1", "yes", "y", "on"].contains (Text.lower value)
  | none => false

def clashes (b : Behavior) (present : List Behavior) : Bool :=
  present.any (·.id == b.id) && !b.repeatable

def fresh (b : Behavior) : Behavior := { b with applied := false }

end Behavior

end Tablecraft
