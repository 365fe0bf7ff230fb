import Tablecraft.Behavior.Effect

namespace Tablecraft.Schedule

/-- No pass applies more entity behaviors than this. -/
def maxApplications : Nat := 10000

structure Slot where
  order : Int
  entity : Nat
  behavior : Nat
  deriving DecidableEq, Repr

def earliestIn (best : Option Slot) (entity behavior : Nat) : List Behavior → Option Slot
  | [] => best
  | b :: rest =>
    if b.applied then earliestIn best entity (behavior + 1) rest
    else
      match best with
      | none => earliestIn (some ⟨b.order, entity, behavior⟩) entity (behavior + 1) rest
      | some slot =>
        if b.order < slot.order then
          earliestIn (some ⟨b.order, entity, behavior⟩) entity (behavior + 1) rest
        else earliestIn best entity (behavior + 1) rest

def earliest (best : Option Slot) (entity : Nat) : List Entity → Option Slot
  | [] => best
  | e :: rest => earliest (earliestIn best entity 0 e.behaviors) (entity + 1) rest

def next? (db : Database) : Option Slot := earliest none 0 db.entities

def occupant? (db : Database) (slot : Slot) : Option (Entity × Behavior) := do
  let e ← db.entities[slot.entity]?
  let b ← e.behaviors[slot.behavior]?
  some (e, b)

def applyAt : Nat → List Behavior → List Behavior
  | _, [] => []
  | 0, b :: rest => { b with applied := true } :: rest
  | position + 1, b :: rest => b :: applyAt position rest

def markApplied (slot : Slot) (db : Database) : Database :=
  db.modifyEntityAt slot.entity fun e =>
    { e with behaviors := applyAt slot.behavior e.behaviors }

def applySlot (registry : Registry) (slot : Slot) : Edit Database Unit := fun db =>
  match occupant? db slot with
  | none => .ok () db
  | some (e, b) =>
    (registry.effectOf b).onEntity { b with applied := true } e.name (markApplied slot db)

def applyPending (registry : Registry) : Nat → Edit Database Unit
  | 0 => fun db =>
    match next? db with
    | none => .ok () db
    | some _ => .error (.behaviorLoop maxApplications) db
  | limit + 1 => fun db =>
    match next? db with
    | none => .ok () db
    | some slot =>
      match applySlot registry slot db with
      | .error fault db => .error fault db
      | .ok _ db => applyPending registry limit db

def applyToDatabase (registry : Registry) : List Behavior → Edit Database Unit
  | [] => pure ()
  | b :: rest => do
    (registry.effectOf b).onDatabase b
    applyToDatabase registry rest

end Schedule

def Database.applyBehaviors (registry : Registry) : Edit Database Unit := fun db =>
  match Schedule.applyToDatabase registry db.behaviors db with
  | .error fault db => .error fault db
  | .ok _ db => Schedule.applyPending registry Schedule.maxApplications db

end Tablecraft
