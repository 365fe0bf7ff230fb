import Tablecraft.Ddl.Column

namespace Tablecraft

structure IndexColumn where
  name : String
  size : Option Nat := none
  deriving DecidableEq, Repr

structure ForeignKeyClause where
  name : String
  columns : List String
  foreignTable : String
  foreignColumns : List String
  onUpdate : RelationAction
  onDelete : RelationAction
  deriving DecidableEq, Repr

inductive TableItem
  | column (clause : ColumnClause)
  | primaryKey (columns : List String)
  | unique (name : Option String) (columns : List String)
  | uniqueIndex (name : String) (columns : List IndexColumn)
  | index (kind name : String) (columns : List IndexColumn)
  | foreignKey (clause : ForeignKeyClause)
  deriving DecidableEq, Repr

structure TableDefinition where
  table : String
  remark : Option String := none
  items : List TableItem
  options : List String := []
  deriving DecidableEq, Repr

inductive ColumnPlace
  | first
  | after (column : String)
  | last
  deriving DecidableEq, Repr

inductive ColumnChange
  | setType (sqlType : String)
  | setDefault (clause : String)
  | dropDefault
  | setNotNull
  | dropNotNull
  deriving DecidableEq, Repr

inductive AlterClause
  | dropPrimaryKey
  | change (column : String) (clause : ColumnClause)
  | add (clause : ColumnClause) (place : ColumnPlace)
  | drop (column : String)
  | addPrimaryKey (columns : List String)
  deriving DecidableEq, Repr

inductive Statement
  | heading (table : String)
  | foreignKeyChecks (on : Bool)
  | dropTable (table : String)
  | createTable (definition : TableDefinition)
  | createSequence (name : String)
  | dropSequence (name : String)
  | describeTable (table text : String)
  | describeColumn (table column text : String)
  | createIndex (kind name table : String) (columns : List IndexColumn)
  | dropIndex (name table : String)
  | addForeignKey (table : String) (clause : ForeignKeyClause)
  | dropForeignKey (table name : String)
  | dropPrimaryKey (table name : String)
  | addPrimaryKey (table : String) (columns : List String)
  | renameTable (source target : String)
  | renameColumn (table source target : String)
  | modifyColumns (table : String) (clauses : List ColumnClause)
  | addColumns (table : String) (clauses : List ColumnClause)
  | addColumn (table : String) (clause : ColumnClause)
  | alterColumn (table column : String) (change : ColumnChange)
  | alterOnce (table : String) (clause : AlterClause)
  | alterTable (table : String) (clauses : List AlterClause)
  | dropColumn (table column : String)
  | saveRows (copy : String) (columns : List String) (table : String)
  /-- Moves saved columns back, each from the first to the second name of its pair. -/
  | restoreRows (copy : String) (columns : List (String × String)) (table : String)
  deriving DecidableEq, Repr

abbrev Script := List Statement

end Tablecraft
