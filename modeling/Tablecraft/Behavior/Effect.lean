import Tablecraft.Model.Database

namespace Tablecraft

inductive Hook
  | preSave | postSave | preInsert | postInsert | preUpdate | postUpdate | preDelete | postDelete
  deriving DecidableEq, Repr

def Hook.all : List Hook :=
  [.preSave, .postSave, .preInsert, .postInsert, .preUpdate, .postUpdate, .preDelete, .postDelete]

inductive BuilderKind
  | object | query | repository | entityMap
  deriving DecidableEq, Repr

def BuilderKind.all : List BuilderKind := [.object, .query, .repository, .entityMap]

/-- Everything that sets one kind of behavior apart. An effect keeps no state: what can be
configured is in the behavior that it is given. -/
structure Effect where
  defaults : NameMap String := ∅
  repeatable : Bool := false
  order : Int := defaultModificationOrder
  /-- Called once for a behavior of the database; by default every entity gets a copy. -/
  onDatabase : Behavior → Edit Database Unit := fun b => Edit.succeed (Database.propagate b)
  onEntity : Behavior → String → Edit Database Unit := fun _ _ => pure ()
  hook : Behavior → Hook → Entity → Option String := fun _ _ _ => none
  builderChange : Behavior → BuilderKind → Entity → Option String := fun _ _ _ => none

abbrev Registry := NameMap Effect

namespace Registry

def register (r : Registry) (name : String) (effect : Effect) : Registry :=
  r.insert (Text.lower name) effect

def knows (r : Registry) (name : String) : Bool := r.contains (Text.lower name)

def create (r : Registry) (name : String) : Except Fault Behavior :=
  let key := Text.lower name
  match r.get? key with
  | none => .error (.unknownBehavior name)
  | some effect =>
    .ok { id := name, name
          parameters :=
            NameMap.ofList (effect.defaults.entries.map fun (k, v) => (Text.lower k, v))
          order := effect.order, repeatable := effect.repeatable, effect := some key }

/-- The effect of a behavior; one without a registered effect does nothing to entities. -/
def effectOf (r : Registry) (b : Behavior) : Effect :=
  (b.effect.bind r.get?).getD {}

end Registry

end Tablecraft
