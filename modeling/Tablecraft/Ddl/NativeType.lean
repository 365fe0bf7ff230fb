import Tablecraft.Dialect
import Tablecraft.Model.Entity

namespace Tablecraft

def genericSqlType : FieldType → Option String
  | .booleanAsInteger => some "INTEGER"
  | .object => some "LONGVARBINARY"
  | .array | .json => some "LONGVARCHAR"
  | .enumeration | .set => some "VARCHAR"
  | .geometry => none
  | t => some t.name

def Dialect.ownSqlType : Dialect → FieldType → Option (String × Option Nat)
  | .generic, _ => none
  | .mysql, t =>
    match t with
    | .boolean => some ("TINYINT", some 1)
    | .numeric => some ("DECIMAL", none)
    | .longVarchar | .array => some ("TEXT", none)
    | .binary => some ("BLOB", none)
    | .varBinary | .object => some ("MEDIUMBLOB", none)
    | .longVarBinary | .blob => some ("LONGBLOB", none)
    | .clob => some ("LONGTEXT", none)
    | .timestamp => some ("DATETIME", none)
    | .enumeration | .booleanAsInteger => some ("TINYINT", none)
    | .set => some ("INT", none)
    | .real => some ("DOUBLE", none)
    | .json => some ("JSON", none)
    | .uuid => some ("BINARY", some 16)
    | .geometry => some ("GEOMETRY", none)
    | _ => none
  | .postgres, t =>
    match t with
    | .tinyInt | .smallInt | .enumeration | .booleanAsInteger => some ("INT2", none)
    | .bigInt => some ("INT8", none)
    | .set => some ("INT4", none)
    | .float | .double => some ("DOUBLE PRECISION", none)
    | .decimal | .numeric => some ("NUMERIC", none)
    | .longVarchar | .clob | .array => some ("TEXT", none)
    | .binary | .varBinary | .longVarBinary | .blob | .object => some ("BYTEA", none)
    | .json => some ("JSON", none)
    | .geometry => some ("GEOMETRY", none)
    | _ => none
  | .sqlite, t =>
    match t with
    | .longVarchar | .clob | .array | .json => some ("TEXT", none)
    | .binary | .varBinary | .longVarBinary | .blob | .object | .geometry => some ("BLOB", none)
    | .enumeration => some ("TINYINT", none)
    | .set | .booleanAsInteger => some ("INTEGER", none)
    | .uuid => some ("CHAR", some 36)
    | _ => none

def standardDomain? (t : FieldType) : Option Domain :=
  (genericSqlType t).map fun sqlType => Domain.ofSqlType t sqlType none

namespace Platform

def domainFor? (p : Platform) (t : FieldType) : Option Domain :=
  match p.dialect.ownSqlType t with
  | some (sqlType, size) => some (Domain.ofSqlType t sqlType size)
  | none => standardDomain? t

def nativeDomain (p : Platform) (e : Entity) (f : Field) : Except Fault Domain :=
  match p.domainFor? f.fieldType with
  | some d => .ok d
  | none => .error (.unmappableType p.name e.name f.name f.fieldType.name)

def unsizedTypes (p : Platform) : List String :=
  match p.dialect with
  | .generic => []
  | .mysql => ["MEDIUMTEXT", "LONGTEXT", "BLOB", "MEDIUMBLOB", "LONGBLOB"]
  | .postgres => ["BYTEA", "TEXT", "DOUBLE PRECISION"]
  | .sqlite => ["TEXT", "BLOB", "INTEGER"]

def hasSize (p : Platform) (sqlType : String) : Bool :=
  !p.unsizedTypes.contains (Text.upper sqlType)

/-- The size that the dialect assumes where none is given. -/
def defaultTypeSize? (p : Platform) (t : FieldType) : Option Nat :=
  match p.dialect, t with
  | .mysql, .char => some 1
  | .mysql, .tinyInt => some 4
  | .mysql, .smallInt => some 6
  | .mysql, .integer => some 11
  | .mysql, .bigInt => some 20
  | .mysql, .decimal => some 10
  | _, _ => none

theorem domainFor?_mysql_isSome (p : Platform) (h : p.dialect = .mysql) (t : FieldType) :
    (p.domainFor? t).isSome := by
  cases t <;> simp [domainFor?, h, Dialect.ownSqlType, standardDomain?, genericSqlType]

end Platform

end Tablecraft
