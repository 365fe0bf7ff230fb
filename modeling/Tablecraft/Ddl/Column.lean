import Tablecraft.Ddl.Literal

namespace Tablecraft

structure ColumnClause where
  name : String
  definition : String
  deriving DecidableEq, Repr

namespace Platform

def tableName (p : Platform) (e : Entity) : String :=
  if p.supportsSchemas then e.fullTable else e.table

def tableEngine (p : Platform) (e : Entity) : String :=
  let vendor := VendorOptions.forDialect e.vendor Dialect.mysql.name
  (vendor.get? "Type" <|> vendor.get? "Engine").getD p.settings.tableType

def usesForeignKeyEngine (p : Platform) (e : Entity) : Bool :=
  ["innodb", "ndb"].contains (Text.lower (p.tableEngine e))

def supportsForeignKeys (p : Platform) (e : Entity) : Bool :=
  match p.dialect with
  | .mysql => p.usesForeignKeyEngine e
  | _ => true

def bareSqlType (p : Platform) (e : Entity) (f : Field) : Except Fault (String × Bool) :=
  match f.domain.givenSqlType with
  | some sqlType =>
    let isNative :=
      match p.domainFor? f.fieldType with
      | some native => Text.sameIgnoringAsciiCase native.sqlType sqlType
      | none => false
    .ok (sqlType, isNative)
  | none => do
    let native ← p.nativeDomain e f
    .ok (native.sqlType, true)

/-- The type with its size, which follows only a type that the dialect chose itself. -/
def sizedSqlType (p : Platform) (e : Entity) (f : Field) : Except Fault String := do
  let (sqlType, isNative) ← p.bareSqlType e f
  if f.domain.replaced || !isNative || !p.hasSize sqlType then .ok sqlType
  else
    let size := f.domain.size <|> (p.domainFor? f.fieldType).bind (·.size)
    .ok (sqlType ++ Domain.sizeText size f.domain.scale)

/-- Enumerations with their values in MySQL, serial types in PostgreSQL, else the sized type. -/
def columnSqlType (p : Platform) (e : Entity) (f : Field) : Except Fault String :=
  match p.dialect with
  | .mysql =>
    if f.fieldType.isEnumerated && !f.values.isEmpty && !f.domain.replaced then
      let keyword := if f.fieldType = .set then "SET" else "ENUM"
      .ok (keyword ++ "(" ++ Text.joinWith ", " (f.values.map p.quote) ++ ")")
    else p.sizedSqlType e f
  | .postgres =>
    if f.autoIncrement && e.idMethodParameter.isNone then
      .ok (if f.fieldType = .bigInt then "bigserial" else "serial")
    else p.sizedSqlType e f
  | _ => p.sizedSqlType e f

def baseSqlType (p : Platform) (e : Entity) (f : Field) : Except Fault String := do
  match f.domain.givenSqlType with
  | some sqlType => .ok (Text.upper sqlType)
  | none =>
    let native ← p.nativeDomain e f
    .ok (Text.upper native.sqlType)

/-- The literal for a default value; an empty array has none. -/
def defaultLiteral (p : Platform) (e : Entity) (f : Field) (value : DefaultValue) :
    Except Fault (Option String) :=
  let text := value.text
  let t := f.fieldType
  if value.isExpression then .ok (some text)
  else if t.isText || t.isEnumerated then .ok (some (p.quote text))
  else if t.isBoolean then .ok (some (p.booleanText text))
  else if t.isArray then .ok ((Literal.arrayText? text).map p.quote)
  else if t.isNumeric then (Literal.numeric e f text).map some
  else .ok (some text)

def defaultClause (p : Platform) (e : Entity) (f : Field) : Except Fault String :=
  match f.domain.default with
  | none => .ok ""
  | some value => do
    match ← p.defaultLiteral e f value with
    | some literal => .ok ("DEFAULT " ++ literal)
    | none => .ok ""

def typesWithoutDefault : List String :=
  ["TINYTEXT", "TEXT", "MEDIUMTEXT", "LONGTEXT", "TINYBLOB", "BLOB", "MEDIUMBLOB", "LONGBLOB"]

/-- MySQL refuses defaults of large types and default expressions of dates. -/
def checkMysqlDefault (p : Platform) (e : Entity) (f : Field) (value : DefaultValue) :
    Except Fault Unit := do
  let sqlType ← p.baseSqlType e f
  if typesWithoutDefault.contains sqlType then
    .error (.defaultOnLargeType e.name f.name sqlType)
  else if sqlType = "DATE" && value.isExpression then
    .error (.expressionOnDate e.name f.name)
  else .ok ()

def columnDefault (p : Platform) (e : Entity) (f : Field) : Except Fault String := do
  match p.dialect, f.domain.default with
  | .mysql, some value =>
    p.checkMysqlDefault e f value
    p.defaultClause e f
  | _, _ => p.defaultClause e f

def autoIncrementToken (p : Platform) : String :=
  match p.dialect with
  | .generic => "IDENTITY"
  | .mysql => "AUTO_INCREMENT"
  | _ => ""

def autoIncrementClause (p : Platform) (e : Entity) (f : Field) : Except Fault (Option String) :=
  if !f.autoIncrement then .ok none
  else if e.idMethod ≠ .native then .error (.autoIncrementWithoutNativeId e.name f.name)
  else .ok (if p.autoIncrementToken = "" then none else some p.autoIncrementToken)

/-- The single primary key field that SQLite declares within its column. -/
def inlineKey? (e : Entity) : Option Field :=
  match e.primaryKey with
  | [f] => if f.autoIncrement then some f else none
  | _ => none

def nullText (notNull : Bool) : String := if notNull then "NOT NULL" else ""

def genericDefinition (p : Platform) (e : Entity) (f : Field) : Except Fault String := do
  let sqlType ← p.columnSqlType e f
  let value ← p.columnDefault e f
  let token ← p.autoIncrementClause e f
  .ok (Text.joinWith " "
    (sqlType :: [value, nullText f.notNull, token.getD ""].filter (· ≠ "")))

def mysqlAttributes (p : Platform) (f : Field) : List String :=
  let vendor := VendorOptions.forDialect f.vendor p.name
  let unsigned :=
    match vendor.get? "Unsigned" with
    | some value => if Text.sameIgnoringAsciiCase value "false" then [] else ["UNSIGNED"]
    | none => []
  let charset := (vendor.get? "Charset").map fun c => "CHARACTER SET " ++ p.quote c
  let collation :=
    (vendor.get? "Collation" <|> vendor.get? "Collate").map fun c => "COLLATE " ++ p.quote c
  unsigned ++ charset.toList ++ collation.toList

/-- Nullity and default in the order that MySQL takes them: a timestamp states its nullity first,
and without a default of its own it starts at the current time. -/
def mysqlNullity (sqlType nullity value : String) : List String :=
  if sqlType = "TIMESTAMP" then
    if nullity = "" then ["NULL", value]
    else [nullity, if value = "" then "DEFAULT CURRENT_TIMESTAMP" else value]
  else [value, nullity]

def mysqlDefinition (p : Platform) (e : Entity) (f : Field) : Except Fault String := do
  let base ← p.baseSqlType e f
  let value ← p.columnDefault e f
  let sqlType ← p.columnSqlType e f
  let token ← p.autoIncrementClause e f
  let comment := if Field.hasText f.description then
      ["COMMENT " ++ p.quote (f.description.getD "")]
    else []
  let nullity := (mysqlNullity base (nullText f.notNull) value).filter (· ≠ "")
  .ok (Text.joinWith " "
    (sqlType :: p.mysqlAttributes f ++ nullity ++ token.toList ++ comment))

def columnDefinition (p : Platform) (e : Entity) (f : Field) : Except Fault String :=
  match p.dialect with
  | .mysql => p.mysqlDefinition e f
  | .sqlite =>
    match inlineKey? e with
    | some key =>
      if key.name = f.name then .ok "INTEGER PRIMARY KEY AUTOINCREMENT"
      else p.genericDefinition e f
    | none => p.genericDefinition e f
  | _ => p.genericDefinition e f

def columnClause (p : Platform) (e : Entity) (f : Field) : Except Fault ColumnClause := do
  let definition ← p.columnDefinition e f
  .ok ⟨f.column, definition⟩

def columnClauses (p : Platform) (e : Entity) (fields : List Field) :
    Except Fault (List ColumnClause) :=
  fields.mapM (p.columnClause e)

end Platform

end Tablecraft
