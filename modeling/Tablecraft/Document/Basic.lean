import Tablecraft.NameMap

namespace Tablecraft

namespace Document

structure Vendor where
  dialect : String
  parameters : NameMap String := ∅
  deriving Repr

structure Behavior where
  name : String
  id : Option String := none
  /-- A parameter without a value keeps its default. -/
  parameters : NameMap (Option String) := ∅
  deriving Repr

structure Domain where
  name : String
  fieldType : String
  sqlType : Option String := none
  size : Option Nat := none
  scale : Option Nat := none
  default : Option String := none
  description : Option String := none
  deriving Repr

structure Inheritance where
  key : String
  className : String
  deriving Repr

structure Field where
  name : String
  fieldType : Option String := none
  domain : Option String := none
  sqlType : Option String := none
  column : Option String := none
  size : Option Nat := none
  scale : Option Nat := none
  primaryKey : Bool := false
  autoIncrement : Bool := false
  notNull : Bool := false
  unique : Bool := false
  default : Option String := none
  defaultExpression : Option String := none
  description : Option String := none
  values : List String := []
  inheritance : List Inheritance := []
  vendor : List Vendor := []
  deriving Repr

structure IndexMember where
  name : String
  size : Option Nat := none
  deriving Repr

structure Index where
  name : Option String := none
  fields : List IndexMember
  vendor : List Vendor := []
  deriving Repr

structure Relation where
  foreignEntity : String
  name : Option String := none
  field : Option String := none
  references : List (String × String) := []
  onDelete : Option String := none
  onUpdate : Option String := none
  skipSql : Bool := false
  deriving Repr

structure Entity where
  name : String
  table : Option String := none
  space : Option String := none
  schema : Option String := none
  description : Option String := none
  idMethod : Option String := none
  idMethodParameter : Option String := none
  heavyIndexing : Option Bool := none
  skipSql : Bool := false
  referenceOnly : Bool := false
  aliasOf : Option String := none
  crossReference : Bool := false
  fields : List Field := []
  indices : List Index := []
  uniques : List Index := []
  relations : List Relation := []
  behaviors : List Behavior := []
  vendor : List Vendor := []
  deriving Repr

structure Database where
  name : String
  schema : Option String := none
  space : Option String := none
  platform : Option String := none
  defaultIdMethod : Option String := none
  heavyIndexing : Bool := false
  domains : List Domain := []
  sequences : List String := []
  behaviors : List Behavior := []
  vendor : List Vendor := []
  entities : List Entity := []
  deriving Repr

end Document

structure SchemaDocument where
  name : Option String := none
  databases : List Document.Database := []
  externals : List SchemaDocument := []

end Tablecraft
