import Tablecraft.Behavior.Effect

namespace Tablecraft.Timestampable

def defaults : NameMap String :=
  NameMap.ofList [("create_column", "created_at"), ("update_column", "updated_at"),
    ("disable_created_at", "false"), ("disable_updated_at", "false")]

def columns : List (String × String) :=
  [("disable_created_at", "create_column"), ("disable_updated_at", "update_column")]

def addColumn (b : Behavior) (column : String × String) : Edit Entity Unit :=
  Edit.attempt fun e =>
    match if b.isParameterTrue column.1 then none else b.parameter? column.2 with
    | none => .ok e
    | some name =>
      if e.hasField name then .ok e
      else e.addField { name, domain := Domain.ofType .timestamp }

def addColumns (b : Behavior) : List (String × String) → Edit Entity Unit
  | [] => pure ()
  | column :: rest => do
    addColumn b column
    addColumns b rest

def onEntity (b : Behavior) (entity : String) : Edit Database Unit := fun db =>
  if db.hasEntity entity then db.editEntity entity (addColumns b columns)
  else .error (.unknownEntity entity (.behavior b.id) db.entityNames) db

def effect : Effect := { defaults, onEntity }

end Timestampable

def Registry.builtins : Registry :=
  Registry.register ∅ "timestampable" Timestampable.effect

end Tablecraft
