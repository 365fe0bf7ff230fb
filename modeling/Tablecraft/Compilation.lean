import Tablecraft.Ddl.Creation
import Tablecraft.Document.Building
import Tablecraft.Document.Reader
import Tablecraft.Finalization.Basic

namespace Tablecraft

def Schema.parse (registry : Registry) (text : String) : Except Fault Schema := do
  (← SchemaDocument.parse text).build registry

def Platform.compile (p : Platform) (registry : Registry) (schema : Schema) :
    Except Fault String := do
  let schema ← (Schema.finalize registry p).result schema
  return Text.concat (← schema.databases.mapM p.creationText)

end Tablecraft
