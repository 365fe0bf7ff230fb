import Tablecraft.Ddl.Column
import Tablecraft.Model.Database

namespace Tablecraft.Finalization

def leadingParts (fields : List String) : List String :=
  (List.range fields.length).map fun n => Text.joinWith "," (fields.take (n + 1))

def coveredParts (e : Entity) : List String :=
  leadingParts e.primaryKeyNames ++
    e.allIndices.flatMap fun i => leadingParts i.memberNames

structure Additions where
  covered : List String
  indices : List Index := []

def Additions.cover (a : Additions) (name : String) (fields : List String) : Additions :=
  { covered := leadingParts fields ++ a.covered
    indices := a.indices ++ [{ Index.ofNames fields with givenName := some name }] }

def Additions.covers (a : Additions) (fields : List String) : Bool :=
  fields.isEmpty || a.covered.contains (Text.joinWith "," fields)

/-- The name of the index for the `count`th uncovered relation from elsewhere. -/
def referencedIndexName (p : Platform) (relation : String) (count : Nat) : String :=
  let name := "i_referenced_" ++ relation ++ "_" ++ Text.ofNat count
  if p.maxIdentifierLength < Text.byteLength name then
    Naming.hashedName none "i_referenced_" [name] p.maxIdentifierLength
  else name

/-- The last `fk_` of a relation's name becomes `fi_`, which else goes in front. -/
def foreignIndexName (relation : String) : String :=
  match Text.splitAtLast? "fk_".toList relation.toList with
  | some (before, after) => String.ofList before ++ "fi_" ++ String.ofList after
  | none => "fi_" ++ relation

def coverReferenced (p : Platform) (count : Nat) (a : Additions) : List Relation → Additions
  | [] => a
  | r :: rest =>
    if a.covers r.foreignFields then coverReferenced p count a rest
    else
      coverReferenced p (count + 1)
        (a.cover (referencedIndexName p r.name (count + 1)) r.foreignFields) rest

def coverLocal (a : Additions) : List Relation → Additions
  | [] => a
  | r :: rest =>
    if a.covers r.localFields then coverLocal a rest
    else coverLocal (a.cover (foreignIndexName r.name) r.localFields) rest

def relationIndices (p : Platform) (db : Database) (e : Entity) : List Index :=
  let incoming := e.referrers.filterMap db.relation?
  let a := coverReferenced p 0 { covered := coveredParts e } incoming
  (coverLocal a e.relations).indices

def addNewIndices : List Index → Edit Entity Unit
  | [] => pure ()
  | i :: rest => do
    Edit.attempt fun e => if e.hasIndex i.name then .ok e else e.addIndex i
    addNewIndices rest

def indexRelations (p : Platform) (name : String) : Edit Database Unit := fun db =>
  match db.entity? name with
  | none => .ok () db
  | some e =>
    if p.usesForeignKeyEngine e then .ok () db
    else db.editEntity name (addNewIndices (relationIndices p db e))

def sequenceOf (p : Platform) (cache : Naming.Cache) (e : Entity) : String × Naming.Cache :=
  match e.idMethodParameter with
  | some parameter => (Text.truncate parameter p.maxIdentifierLength, cache)
  | none => cache.shorten e.table "_SEQ" p.maxIdentifierLength

def chooseSequence (p : Platform) (cache : Naming.Cache) (name : String) (db : Database) :
    Database × Naming.Cache :=
  match db.entity? name with
  | none => (db, cache)
  | some e =>
    if e.idMethod = .native then
      let (sequence, cache) := sequenceOf p cache e
      (db.modifyEntity name fun e => { e with chosenSequence := some sequence }, cache)
    else (db, cache)

def chooseSequences (p : Platform) : Naming.Cache → List String → Database → Database
  | _, [], db => db
  | cache, name :: rest, db =>
    let (db, cache) := chooseSequence p cache name db
    chooseSequences p cache rest db

def indexAllRelations (p : Platform) : List String → Edit Database Unit
  | [] => pure ()
  | name :: rest => do
    indexRelations p name
    indexAllRelations p rest

def dialectPass (p : Platform) (names : List String) : Edit Database Unit :=
  match p.dialect with
  | .mysql => indexAllRelations p names
  | .postgres => Edit.succeed (chooseSequences p {} names)
  | _ => pure ()

end Tablecraft.Finalization
