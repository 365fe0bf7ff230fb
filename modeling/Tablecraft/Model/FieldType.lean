import Tablecraft.Fault
import Tablecraft.Text.Case

namespace Tablecraft

inductive FieldType
  | char | varchar | longVarchar | clob
  | numeric | decimal | tinyInt | smallInt | integer | bigInt | real | float | double
  | binary | varBinary | longVarBinary | blob
  | date | time | timestamp
  | boolean | booleanAsInteger
  | object | array | enumeration | set | json | uuid | geometry
  deriving DecidableEq, Repr

namespace FieldType

def all : List FieldType :=
  [char, varchar, longVarchar, clob, numeric, decimal, tinyInt, smallInt, integer, bigInt, real,
    float, double, binary, varBinary, longVarBinary, blob, date, time, timestamp, boolean,
    booleanAsInteger, object, array, enumeration, set, json, uuid, geometry]

def name : FieldType → String
  | char => "CHAR"
  | varchar => "VARCHAR"
  | longVarchar => "LONGVARCHAR"
  | clob => "CLOB"
  | numeric => "NUMERIC"
  | decimal => "DECIMAL"
  | tinyInt => "TINYINT"
  | smallInt => "SMALLINT"
  | integer => "INTEGER"
  | bigInt => "BIGINT"
  | real => "REAL"
  | float => "FLOAT"
  | double => "DOUBLE"
  | binary => "BINARY"
  | varBinary => "VARBINARY"
  | longVarBinary => "LONGVARBINARY"
  | blob => "BLOB"
  | date => "DATE"
  | time => "TIME"
  | timestamp => "TIMESTAMP"
  | boolean => "BOOLEAN"
  | booleanAsInteger => "BOOLEAN_EMU"
  | object => "OBJECT"
  | array => "ARRAY"
  | enumeration => "ENUM"
  | set => "SET"
  | json => "JSON"
  | uuid => "UUID"
  | geometry => "GEOMETRY"

/-- Types whose literal defaults are quoted; dates and times are among them. -/
def isText : FieldType → Bool
  | char | varchar | longVarchar | clob | date | time | timestamp | json | uuid => true
  | _ => false

def isNumeric : FieldType → Bool
  | numeric | decimal | tinyInt | smallInt | integer | bigInt | real | float | double => true
  | _ => false

def isInteger : FieldType → Bool
  | tinyInt | smallInt | integer | bigInt => true
  | _ => false

def isLargeObject : FieldType → Bool
  | varBinary | longVarBinary | blob | object | geometry => true
  | _ => false

def isTemporal : FieldType → Bool
  | date | time | timestamp => true
  | _ => false

def isBoolean : FieldType → Bool
  | boolean | booleanAsInteger => true
  | _ => false

def isArray : FieldType → Bool
  | array => true
  | _ => false

def isEnumerated : FieldType → Bool
  | enumeration | set => true
  | _ => false

/-- Binary types that PostgreSQL reads only inside a transaction. -/
def needsTransaction : FieldType → Bool
  | varBinary | longVarBinary | blob => true
  | _ => false

def synonyms : List (String × FieldType) :=
  [("INT", integer), ("BOOL", boolean), ("TEXT", longVarchar)]

def read (text : String) : Except Fault FieldType :=
  let upper := Text.upper (Text.trim text)
  match synonyms.lookup upper <|> all.find? (·.name == upper) with
  | some t => .ok t
  | none => .error (.unknownType text)

theorem mem_all (t : FieldType) : t ∈ all := by cases t <;> decide

end FieldType

end Tablecraft
