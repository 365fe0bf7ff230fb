import Tablecraft.Model.Database

namespace Tablecraft

structure Workspace where
  db : Database
  slots : List (String × Entity) := []
  snapshots : NameMap Database := ∅
  deriving DecidableEq, Repr

namespace Workspace

def setDatabase (db : Database) (w : Workspace) : Workspace := { w with db }

def slot? (w : Workspace) (name : String) : Option Entity := w.slots.lookup name

def clearSlot (name : String) (w : Workspace) : Workspace :=
  { w with slots := w.slots.filter (·.1 != name) }

def setSlot (name : String) (e : Entity) (w : Workspace) : Workspace :=
  { w with slots := (name, e) :: (w.clearSlot name).slots }

def entity? (w : Workspace) (address : String) : Option Entity :=
  match address.toList with
  | '$' :: name => w.slot? (String.ofList name)
  | _ => w.db.entity? address

def replace (address : String) (e : Entity) (w : Workspace) : Workspace :=
  match address.toList with
  | '$' :: name => w.setSlot (String.ofList name) e
  | _ => { w with db := w.db.modifyEntity address fun _ => e }

end Workspace

end Tablecraft
