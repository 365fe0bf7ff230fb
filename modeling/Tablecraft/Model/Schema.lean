import Tablecraft.Model.Database

namespace Tablecraft

structure Schema where
  name : Option String := none
  databases : List Database := []
  externals : List Schema := []

namespace Schema

def database? (s : Schema) (name : String) : Option Database :=
  s.databases.find? (·.name == name)

def hasMultipleDatabases (s : Schema) : Bool := 1 < s.databases.length

def addDatabase (db : Database) (s : Schema) : Except Fault Schema :=
  if (s.database? db.name).isSome then .error (.duplicateDatabase db.name)
  else .ok { s with databases := s.databases ++ [{ db with parent := s.name }] }

/-- Moves the named entities of one database to another, in order. The first component is what is
left of their old database. -/
def moveEntities (source : Database) : List String → Edit Database Unit
  | [] => pure ()
  | name :: rest => fun target =>
    if target.hasEntity name then .error (.duplicateEntity target.name name) target
    else
      match source.removeEntity? name with
      | none => moveEntities source rest target
      | some (e, source) =>
        match target.addEntity e with
        | .error fault => .error fault target
        | .ok target => moveEntities source rest target

def addMissingBehaviors (behaviors : List Behavior) (target : Database) : Database :=
  behaviors.foldl
    (fun db b => if db.hasBehavior b.id then db else { db with behaviors := db.behaviors ++ [b] })
    target

def mergeDatabase (incoming : Database) : Edit Database Unit := fun target =>
  match moveEntities incoming incoming.entityNames target with
  | .error fault target => .error fault target
  | .ok _ target => .ok () (addMissingBehaviors incoming.behaviors target)

def absorb (parent : Option String) (incoming : Database) : Edit (List Database) Unit :=
  fun own =>
    if own.any (·.name == incoming.name) then
      Edit.first (·.name == incoming.name) (mergeDatabase incoming) own
    else .ok () (own ++ [{ incoming with parent }])

def absorbAll (parent : Option String) : List Database → Edit (List Database) Unit
  | [] => pure ()
  | incoming :: rest => do
    absorb parent incoming
    absorbAll parent rest

mutual

/-- Moves the databases of every external description, and of theirs, into this one. The externals
stay without databases; after a fault they are gone. -/
def join : Schema → EStateM.Result Fault Schema Unit
  | ⟨name, databases, externals⟩ =>
    match joinExternals name externals databases with
    | .error fault databases => .error fault ⟨name, databases, []⟩
    | .ok externals databases => .ok () ⟨name, databases, externals⟩

def joinExternals (parent : Option String) : List Schema → Edit (List Database) (List Schema)
  | [] => fun own => .ok [] own
  | external :: rest => fun own =>
    match join external with
    | .error fault _ => .error fault own
    | .ok _ joined =>
      match absorbAll parent joined.databases own with
      | .error fault own => .error fault own
      | .ok _ own =>
        match joinExternals parent rest own with
        | .error fault own => .error fault own
        | .ok externals own => .ok ({ joined with databases := [] } :: externals) own

end

end Schema

end Tablecraft
