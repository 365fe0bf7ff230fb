import Tablecraft.Decimal.Literal
import Tablecraft.Document.Basic
import Tablecraft.Fault
import Tablecraft.Json.Reader

namespace Tablecraft.Document

/-- A reader of values, given how many more arrays and objects may be entered, plus one. -/
abbrev Reader (α : Type) := Nat → Json → Option α

def text : Reader String
  | _, .string value => value
  | _, _ => none

def size : Reader Nat
  | _, .number digits =>
    let cs := digits.toList
    let n := Decimal.natOfDigits cs
    if cs.all Char.isDigit && n ≤ 4294967295 then some n else none
  | _, _ => none

def flag : Reader Bool
  | _, .bool value => some value
  | _, _ => none

def nullable {α : Type} (read : Reader α) : Reader (Option α)
  | _, .null => some none
  | depth, j => (read depth j).map some

def enter? : Nat → Option Nat
  | depth + 2 => some (depth + 1)
  | _ => none

def list {α : Type} (read : Reader α) : Reader (List α)
  | depth, .array items => (enter? depth).bind fun depth => items.mapM (read depth)
  | _, _ => none

def map {α : Type} (read : Reader α) : Reader (NameMap α)
  | depth, .object members => do
    let depth ← enter? depth
    let pairs ← members.mapM fun (key, j) => do
      let key ← key
      let value ← read depth j
      some (key, value)
    some (NameMap.ofList pairs)
  | _, _ => none

abbrev Slots := List (Option Json)

def afterKey? (key : String) :
    List (Option String × Json) → Option (Json × List (Option String × Json))
  | [] => none
  | (k, j) :: rest => if k = some key then some (j, rest) else afterKey? key rest

def slotOf (members : List (Option String × Json)) (key : String) : Option (Option Json) :=
  match afterKey? key members with
  | none => some none
  | some (j, rest) => if (afterKey? key rest).isSome then none else some (some j)

/-- A record is an object with some of the keys, or an array of the values of the first keys. -/
def slots? (keys : List String) (depth : Nat) : Json → Option (Nat × Slots)
  | .object members => do
    let depth ← enter? depth
    if members.any fun m => m.1.isNone then none
    else
      let slots ← keys.mapM (slotOf members)
      some (depth, slots)
  | .array items => do
    let depth ← enter? depth
    if keys.length < items.length then none
    else some (depth, items.map some ++ List.replicate (keys.length - items.length) none)
  | _ => none

abbrev RecordReader := StateT Slots Option

def next {α : Type} (depth : Nat) (read : Reader α) (default : Option α) : RecordReader α :=
  fun slots =>
    match slots with
    | some j :: rest => (read depth j).map fun a => (a, rest)
    | none :: rest => default.map fun a => (a, rest)
    | [] => none

def required {α : Type} (depth : Nat) (read : Reader α) : RecordReader α := next depth read none

def optional {α : Type} (depth : Nat) (read : Reader α) : RecordReader (Option α) :=
  next depth (nullable read) (some none)

def optionalList {α : Type} (depth : Nat) (read : Reader α) : RecordReader (List α) :=
  next depth (list read) (some [])

def optionalMap {α : Type} (depth : Nat) (read : Reader α) : RecordReader (NameMap α) :=
  next depth (map read) (some ∅)

def optionalFlag (depth : Nat) : RecordReader Bool := next depth flag (some false)

def record {α : Type} (keys : List String) (read : Nat → RecordReader α) : Reader α :=
  fun depth j => do
    let (depth, slots) ← slots? keys depth j
    let (a, _) ← read depth slots
    some a

def readVendor : Reader Vendor :=
  record ["type", "parameters"] fun d => do
    return { dialect := ← required d text, parameters := ← optionalMap d text }

def readBehavior : Reader Behavior :=
  record ["name", "id", "parameters"] fun d => do
    return {
      name := ← required d text
      id := ← optional d text
      parameters := ← optionalMap d (nullable text) }

def readDomain : Reader Domain :=
  record ["name", "type", "sql_type", "size", "scale", "default", "description"] fun d => do
    return {
      name := ← required d text
      fieldType := ← required d text
      sqlType := ← optional d text
      size := ← optional d size
      scale := ← optional d size
      default := ← optional d text
      description := ← optional d text }

def readInheritance : Reader Inheritance :=
  record ["key", "class"] fun d => do
    return { key := ← required d text, className := ← required d text }

def readField : Reader Field :=
  record ["name", "type", "domain", "sql_type", "column", "size", "scale", "primary_key",
      "auto_increment", "not_null", "unique", "default", "default_expr", "description", "values",
      "inheritance", "vendor"] fun d => do
    return {
      name := ← required d text
      fieldType := ← optional d text
      domain := ← optional d text
      sqlType := ← optional d text
      column := ← optional d text
      size := ← optional d size
      scale := ← optional d size
      primaryKey := ← optionalFlag d
      autoIncrement := ← optionalFlag d
      notNull := ← optionalFlag d
      unique := ← optionalFlag d
      default := ← optional d text
      defaultExpression := ← optional d text
      description := ← optional d text
      values := ← optionalList d text
      inheritance := ← optionalList d readInheritance
      vendor := ← optionalList d readVendor }

mutual

/-- All of the value can be read: its strings spell texts, its numbers are finite, and its arrays
and objects do not nest too deep. -/
def isSound : Nat → Json → Bool
  | _, .null => true
  | _, .bool _ => true
  | _, .number digits => Decimal.isFinite digits
  | _, .string value => value.isSome
  | depth, .array items => 2 ≤ depth && allSound (depth - 1) items
  | depth, .object members => 2 ≤ depth && membersSound (depth - 1) members

def allSound : Nat → List Json → Bool
  | _, [] => true
  | depth, j :: rest => isSound depth j && allSound depth rest

def membersSound : Nat → List (Option String × Json) → Bool
  | _, [] => true
  | depth, (key, j) :: rest => key.isSome && isSound depth j && membersSound depth rest

end

/-- A name alone, or an object of a name and a size; alone among the records this one has no form as
an array. The whole value must be sound, unknown members included, because both forms are tried on
it. -/
def readIndexMember : Reader IndexMember := fun depth j =>
  if isSound depth j then
    match j with
    | .string value => value.map fun name => { name }
    | .array _ => none
    | _ =>
      record ["name", "size"]
        (fun d => do
          return { name := ← required d text, size := some (← required d size) }) depth j
  else none

def readIndex : Reader Index :=
  record ["name", "fields", "vendor"] fun d => do
    return {
      name := ← optional d text
      fields := ← required d (list readIndexMember)
      vendor := ← optionalList d readVendor }

def readReference : Reader (String × String) :=
  record ["local", "foreign"] fun d => do
    return (← required d text, ← required d text)

def readRelation : Reader Relation :=
  record ["foreign_entity", "name", "field", "references", "on_delete", "on_update",
      "skip_sql"] fun d => do
    return {
      foreignEntity := ← required d text
      name := ← optional d text
      field := ← optional d text
      references := ← optionalList d readReference
      onDelete := ← optional d text
      onUpdate := ← optional d text
      skipSql := ← optionalFlag d }

def readEntity : Reader Entity :=
  record ["name", "table_name", "namespace", "schema", "description", "id_method",
      "id_method_parameter", "heavy_indexing", "skip_sql", "reference_only", "alias",
      "is_cross_ref", "fields", "indices", "uniques", "relations", "behaviors",
      "vendor"] fun d => do
    return {
      name := ← required d text
      table := ← optional d text
      space := ← optional d text
      schema := ← optional d text
      description := ← optional d text
      idMethod := ← optional d text
      idMethodParameter := ← optional d text
      heavyIndexing := ← optional d flag
      skipSql := ← optionalFlag d
      referenceOnly := ← optionalFlag d
      aliasOf := ← optional d text
      crossReference := ← optionalFlag d
      fields := ← optionalList d readField
      indices := ← optionalList d readIndex
      uniques := ← optionalList d readIndex
      relations := ← optionalList d readRelation
      behaviors := ← optionalList d readBehavior
      vendor := ← optionalList d readVendor }

def readDatabase : Reader Database :=
  record ["name", "schema", "namespace", "platform", "default_id_method", "heavy_indexing",
      "domains", "sequences", "behaviors", "vendor", "entities"] fun d => do
    return {
      name := ← required d text
      schema := ← optional d text
      space := ← optional d text
      platform := ← optional d text
      defaultIdMethod := ← optional d text
      heavyIndexing := ← optionalFlag d
      domains := ← optionalList d readDomain
      sequences := ← optionalList d text
      behaviors := ← optionalList d readBehavior
      vendor := ← optionalList d readVendor
      entities := ← optionalList d readEntity }

/-- The description with its externals; each of these is two levels further in. -/
def readSchema : Reader SchemaDocument
  | depth + 2, j => do
    let (_, slots) ← slots? ["name", "databases", "external_schemas"] (depth + 2) j
    match slots with
    | [name, databases, externals] =>
      let (name, _) ← optional (depth + 1) text [name]
      let (databases, _) ← optionalList (depth + 1) readDatabase [databases]
      let externals ←
        match depth, externals with
        | _, none => some []
        | inner + 1, some (.array items) => items.mapM fun item => readSchema (inner + 1) item
        | _, _ => none
      some { name, databases, externals }
    | _ => none
  | _, _ => none

/-- The outermost value may be entered, and 126 levels below it. -/
def maxDepth : Nat := 128

end Document

def SchemaDocument.ofJson (j : Json) : Except Fault SchemaDocument :=
  match Document.readSchema Document.maxDepth j with
  | some d => .ok d
  | none => .error .malformedDocument

def SchemaDocument.parse (text : String) : Except Fault SchemaDocument :=
  match Json.read? text with
  | some j => SchemaDocument.ofJson j
  | none => .error .malformedDocument

end Tablecraft
