import Tablecraft.Diff.Compare
import Tablecraft.Json.Access

namespace Tablecraft

def NamePair.toJson (p : NamePair) : Json := .texts [p.source, p.target]

def NamePair.toMarkedJson (p : NamePair) : Json :=
  .array [.text p.source, .text p.target, .bool p.isRename]

def EntityDiff.toJson (d : EntityDiff) : Json :=
  .record
    [("from", .text d.source),
      ("to", .text d.target),
      ("empty", .bool d.isEmpty),
      ("added_fields", .texts d.addedFields),
      ("removed_fields", .texts d.removedFields),
      ("renamed_fields", .ofList NamePair.toMarkedJson d.renamedFields),
      ("modified_fields", .ofList NamePair.toMarkedJson d.modifiedFields),
      ("modified_pk", .bool d.modifiedPrimaryKey),
      ("added_indices", .texts d.addedIndices),
      ("removed_indices", .texts d.removedIndices),
      ("modified_indices", .ofList NamePair.toJson d.modifiedIndices),
      ("added_relations", .texts d.addedRelations),
      ("removed_relations", .texts d.removedRelations),
      ("modified_relations", .ofList NamePair.toJson d.modifiedRelations)]

def DatabaseDiff.toJson (d : DatabaseDiff) : Json :=
  .record
    [("empty", .bool d.isEmpty),
      ("added_entities", .texts d.addedEntities),
      ("removed_entities", .texts d.removedEntities),
      ("renamed_entities", .ofList NamePair.toJson d.renamedEntities),
      ("modified_entities", .ofList EntityDiff.toJson d.modifiedEntities)]

def Json.namePairs (j : Json) (key : String) : List NamePair :=
  (j.pairItems key).map fun (source, target) => ⟨source, target⟩

namespace EntityDiff

/-- The changes of the record after those that are there. A renamed field is neither new nor gone.
-/
def extend (d : EntityDiff) (j : Json) : EntityDiff :=
  let renamed := j.namePairs "renamed_fields"
  { d with
    addedFields := (d.addedFields ++ j.textItems "added_fields").filter fun n =>
      !renamed.any (·.target == n)
    removedFields := (d.removedFields ++ j.textItems "removed_fields").filter fun n =>
      !renamed.any (·.source == n)
    renamedFields := d.renamedFields ++ renamed
    modifiedFields := d.modifiedFields ++ j.namePairs "modified_fields"
    modifiedPrimaryKey := d.modifiedPrimaryKey || j.flag "modified_pk"
    addedIndices := d.addedIndices ++ j.textItems "added_indices"
    removedIndices := d.removedIndices ++ j.textItems "removed_indices"
    modifiedIndices := d.modifiedIndices ++ j.namePairs "modified_indices"
    addedRelations := d.addedRelations ++ j.textItems "added_relations"
    removedRelations := d.removedRelations ++ j.textItems "removed_relations"
    modifiedRelations := d.modifiedRelations ++ j.namePairs "modified_relations" }

/-- The difference of an entity, which starts from a comparison if the record asks for one. -/
def ofJson (source target : Database) (j : Json) : Except Fault EntityDiff := do
  match (j.get? "compare").bind Json.asPair? with
  | some (a, b) =>
    let old ← source.findEntity .source a
    let new ← target.findEntity .target b
    .ok ((compare old new).extend j)
  | none =>
    let name := (j.text? "from").getD ""
    .ok (extend { source := name, target := (j.text? "to").getD name } j)

end EntityDiff

def DatabaseDiff.ofJson (source target : Database) (j : Json) : Except Fault DatabaseDiff := do
  let base : DatabaseDiff :=
    if j.text? "base" = some "compare" then compare source target else { source, target }
  let dropped := j.textItems "drop_from_base"
  let kept (names : List String) : List String := names.filter fun n => !dropped.contains n
  let modified ← (j.items "modified_entities").mapM (EntityDiff.ofJson source target)
  .ok
    { base with
      addedEntities := kept base.addedEntities ++ j.textItems "added_entities"
      removedEntities := kept base.removedEntities ++ j.textItems "removed_entities"
      renamedEntities := base.renamedEntities ++ j.namePairs "renamed_entities"
      modifiedEntities := base.modifiedEntities ++ modified }

end Tablecraft
