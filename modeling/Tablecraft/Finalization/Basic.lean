import Tablecraft.Behavior.Schedule
import Tablecraft.Finalization.Constraints
import Tablecraft.Finalization.DialectPass
import Tablecraft.Finalization.Referrers
import Tablecraft.Model.Schema

namespace Tablecraft

namespace Finalization

def settle (p : Platform) (heavyIndexing : Bool) (name : String) : Edit Database Unit := do
  Database.editEntity name (settleEntity p heavyIndexing)
  settleRelationsOf name

def settleAll (p : Platform) (heavyIndexing : Bool) : List String → Edit Database Unit
  | [] => pure ()
  | name :: rest => do
    settle p heavyIndexing name
    settleAll p heavyIndexing rest

def registerAllRelations : List String → Edit Database Unit
  | [] => pure ()
  | name :: rest => do
    registerRelationsOf name
    registerAllRelations rest

def passes (p : Platform) : Edit Database Unit := fun db =>
  let names := db.entityNames
  (do
    settleAll p db.heavyIndexing names
    registerAllRelations names
    dialectPass p names : Edit Database Unit) db

end Finalization

def Database.finalize (registry : Registry) (p : Platform) : Edit Database Unit := do
  Database.applyBehaviors registry
  Finalization.passes p

namespace Schema

def finalizeEach (registry : Registry) (choose : Database → Except Fault Platform) :
    Edit Schema Unit := fun s =>
  match s.join with
  | .error fault s => .error fault s
  | .ok _ s =>
    Edit.within (·.databases) (fun s databases => { s with databases })
      (Edit.each fun db =>
        match choose db with
        | .error fault => .error fault db
        | .ok p => db.finalize registry p) s

def finalize (registry : Registry) (p : Platform) : Edit Schema Unit :=
  finalizeEach registry fun _ => .ok p

end Schema

end Tablecraft
