import Tablecraft.Ddl.Statement
import Tablecraft.Model.Database

namespace Tablecraft

namespace Platform

/-- The column of a field; a name without a field stands for itself. -/
def fieldColumn (e : Entity) (name : String) : String :=
  ((e.field? name).map Field.column).getD name

/-- MySQL wants the automatic column at the head of the key. -/
def primaryKeyFields (p : Platform) (e : Entity) : List Field :=
  match p.dialect with
  | .mysql =>
    match FirstMatch.extract? (·.autoIncrement) e.primaryKey with
    | some (automatic, rest) => automatic :: rest
    | none => e.primaryKey
  | _ => e.primaryKey

/-- The columns of the key clause; SQLite writes a single automatic key within its column. -/
def primaryKeyColumns (p : Platform) (e : Entity) : List String :=
  if p.dialect = .sqlite && (inlineKey? e).isSome then []
  else (p.primaryKeyFields e).map Field.column

def indexKind (p : Platform) (i : Index) : String :=
  match (VendorOptions.forDialect i.vendor p.name).get? "Index_type" with
  | some kind => kind ++ " "
  | none => if i.unique then "UNIQUE " else ""

def indexColumns (p : Platform) (e : Entity) (i : Index) : List IndexColumn :=
  i.members.map fun m =>
    { name := fieldColumn e m.name, size := if p.supportsIndexSize then m.size else none }

def addIndex (p : Platform) (e : Entity) (i : Index) : Statement :=
  .createIndex (p.indexKind i) i.name (p.tableName e) (p.indexColumns e i)

def addIndices (p : Platform) (e : Entity) : Script :=
  match p.dialect with
  | .mysql => []
  | _ => e.indices.map (p.addIndex e)

def dropIndex (p : Platform) (e : Entity) (i : Index) : Statement :=
  .dropIndex i.name (p.tableName e)

def uniqueItem (p : Platform) (e : Entity) (u : Index) : TableItem :=
  let columns := u.memberNames.map (fieldColumn e)
  match p.dialect with
  | .postgres => .unique (some u.name) columns
  | _ => .unique none columns

/-- The clause for a relation. A foreign entity that the database lacks goes by the names that the
relation has for it. -/
def foreignKeyClause (p : Platform) (db : Database) (e : Entity) (r : Relation) :
    ForeignKeyClause :=
  let foreign := db.entity? r.foreignEntity
  { name := r.name
    columns := r.localFields.map (fieldColumn e)
    foreignTable := (foreign.map p.tableName).getD r.foreignTableName
    foreignColumns :=
      match foreign with
      | some f => r.foreignFields.map (fieldColumn f)
      | none => r.foreignFields
    onUpdate := r.onUpdate
    onDelete := r.onDelete }

/-- The relation gets a statement of its own. SQLite has foreign keys within definitions only. -/
def rendersForeignKey (p : Platform) (e : Entity) (r : Relation) : Bool :=
  !r.skipSql && p.supportsForeignKeys e && p.dialect ≠ .sqlite

def addForeignKey (p : Platform) (db : Database) (e : Entity) (r : Relation) : Script :=
  if p.rendersForeignKey e r then
    [.addForeignKey (p.tableName e) (p.foreignKeyClause db e r)]
  else []

def addForeignKeys (p : Platform) (db : Database) (e : Entity) : Script :=
  match p.dialect with
  | .mysql => []
  | _ => e.relations.flatMap (p.addForeignKey db e)

def dropForeignKey (p : Platform) (e : Entity) (r : Relation) : Script :=
  if p.rendersForeignKey e r then [.dropForeignKey (p.tableName e) r.name] else []

def tableOptionNames : List (String × String) :=
  [("AutoIncrement", "AUTO_INCREMENT"), ("AvgRowLength", "AVG_ROW_LENGTH"),
    ("Charset", "CHARACTER SET"), ("Checksum", "CHECKSUM"), ("Collate", "COLLATE"),
    ("Connection", "CONNECTION"), ("DataDirectory", "DATA DIRECTORY"),
    ("Delay_key_write", "DELAY_KEY_WRITE"), ("DelayKeyWrite", "DELAY_KEY_WRITE"),
    ("IndexDirectory", "INDEX DIRECTORY"), ("InsertMethod", "INSERT_METHOD"),
    ("KeyBlockSize", "KEY_BLOCK_SIZE"), ("MaxRows", "MAX_ROWS"), ("MinRows", "MIN_ROWS"),
    ("Pack_Keys", "PACK_KEYS"), ("PackKeys", "PACK_KEYS"), ("RowFormat", "ROW_FORMAT"),
    ("Union", "UNION")]

def keywordOptions : List String := ["InsertMethod", "Pack_Keys", "PackKeys", "RowFormat"]

/-- `NAME=value` for each option that the database or the entity sets; the entity wins. -/
def tableOptions (p : Platform) (db : Database) (e : Entity) : List String :=
  let dialect := Dialect.mysql.name
  let vendor := (VendorOptions.forDialect db.vendor dialect).merge
    (VendorOptions.forDialect e.vendor dialect)
  tableOptionNames.filterMap fun (key, option) =>
    (vendor.get? key).map fun value =>
      let bare := Decimal.isNumeric value || keywordOptions.contains key
      option ++ "=" ++ if bare then value else p.quote value

def describedBy (description : Option String) : Option String :=
  if Field.hasText description then description else none

def commonItems (p : Platform) (e : Entity) (columns : List ColumnClause) : List TableItem :=
  let key := p.primaryKeyColumns e
  columns.map .column ++ (if key.isEmpty then [] else [.primaryKey key])

def inlineForeignKeys (p : Platform) (db : Database) (e : Entity) : List TableItem :=
  (e.relations.filter fun r => !r.skipSql).map fun r => .foreignKey (p.foreignKeyClause db e r)

def tableItems (p : Platform) (db : Database) (e : Entity) (columns : List ColumnClause) :
    List TableItem :=
  match p.dialect with
  | .mysql =>
    p.commonItems e columns ++
      e.uniques.map (fun u => .uniqueIndex u.name (p.indexColumns e u)) ++
      e.indices.map (fun i => .index (p.indexKind i) i.name (p.indexColumns e i)) ++
      if p.supportsForeignKeys e then p.inlineForeignKeys db e else []
  | .sqlite =>
    p.commonItems e columns ++ e.uniques.map (p.uniqueItem e) ++ p.inlineForeignKeys db e
  | _ => p.commonItems e columns ++ e.uniques.map (p.uniqueItem e)

def mysqlTableOptions (p : Platform) (db : Database) (e : Entity) : List String :=
  let engine := p.settings.engineKeyword ++ "=" ++ p.tableEngine e
  let comment := (describedBy e.description).map fun d => "COMMENT=" ++ p.quote d
  engine :: p.tableOptions db e ++ comment.toList

def tableDefinition (p : Platform) (db : Database) (e : Entity) :
    Except Fault TableDefinition := do
  let columns ← p.columnClauses e e.fields
  .ok
    { table := p.tableName e
      remark := if p.dialect = .sqlite then none else describedBy e.description
      items := p.tableItems db e columns
      options := if p.dialect = .mysql then p.mysqlTableOptions db e else [] }

def ownSequence? (p : Platform) (e : Entity) : Option String :=
  if p.dialect = .postgres && e.idMethod = .native && e.idMethodParameter.isSome then
    some (Text.lower e.sequenceName)
  else none

def describeFields (p : Platform) (e : Entity) : Script :=
  e.fields.filterMap fun f =>
    (describedBy f.description).map fun d => .describeColumn (p.tableName e) f.column d

def describe (p : Platform) (e : Entity) : Script :=
  match p.dialect with
  | .postgres =>
    ((describedBy e.description).map fun d => .describeTable (p.tableName e) d).toList ++
      p.describeFields e
  | _ => []

def dropEntity (p : Platform) (e : Entity) : Script :=
  .dropTable (p.tableName e) :: ((p.ownSequence? e).map Statement.dropSequence).toList

def addEntity (p : Platform) (db : Database) (e : Entity) : Except Fault Script := do
  let definition ← p.tableDefinition db e
  .ok (((p.ownSequence? e).map Statement.createSequence).toList ++
    .createTable definition :: p.describe e)

end Platform

end Tablecraft
