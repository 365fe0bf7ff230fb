import Tablecraft.Ddl.Statement

namespace Tablecraft

namespace Platform

def commentBlock (rulePrefix text : String) : String :=
  let rule := rulePrefix ++ Text.repeated (71 - Text.byteLength rulePrefix) '-'
  "\n" ++ rule ++ "\n-- " ++ text ++ "\n" ++ rule ++ "\n"

def headingText (p : Platform) (text : String) : String :=
  match p.dialect with
  | .mysql => commentBlock "-- " text
  | _ => commentBlock "--" text

def remarkText (text : String) : String := "-- " ++ text ++ " \n"

def columnText (p : Platform) (c : ColumnClause) : String :=
  p.quoteIdentifier c.name ++ " " ++ c.definition

def indexColumnText (p : Platform) (c : IndexColumn) : String :=
  p.quoteIdentifier c.name ++ ((c.size.map fun n => "(" ++ Text.ofNat n ++ ")").getD "")

def indexColumnList (p : Platform) (columns : List IndexColumn) : String :=
  Text.joinWith ", " (columns.map p.indexColumnText)

def primaryKeyText (p : Platform) : List String → String
  | [] => ""
  | columns => "PRIMARY KEY (" ++ p.columnList columns ++ ")"

def uniqueText (p : Platform) (name : Option String) (columns : List String) : String :=
  ((name.map fun n => "CONSTRAINT " ++ p.quoteIdentifier n ++ " ").getD "") ++
    "UNIQUE (" ++ p.columnList columns ++ ")"

def actionText (event : String) (action : RelationAction) : String :=
  if action = .none then "" else "\n    ON " ++ event ++ " " ++ action.sql

def foreignKeyText (p : Platform) (k : ForeignKeyClause) : String :=
  "CONSTRAINT " ++ p.quoteIdentifier k.name ++
    "\n    FOREIGN KEY (" ++ p.columnList k.columns ++
    ")\n    REFERENCES " ++ p.quoteIdentifier k.foreignTable ++
    " (" ++ p.columnList k.foreignColumns ++ ")" ++
    actionText "UPDATE" k.onUpdate ++ actionText "DELETE" k.onDelete

def indented (text : String) : String := Text.replace "\n    " "\n        " text

def itemText (p : Platform) : TableItem → String
  | .column c => p.columnText c
  | .primaryKey columns => p.primaryKeyText columns
  | .unique name columns => p.uniqueText name columns
  | .uniqueIndex name columns =>
    "UNIQUE INDEX " ++ p.quoteIdentifier name ++ " (" ++ p.indexColumnList columns ++ ")"
  | .index kind name columns =>
    kind ++ "INDEX " ++ p.quoteIdentifier name ++ " (" ++ p.indexColumnList columns ++ ")"
  | .foreignKey k => indented (p.foreignKeyText k)

def block (lines : List String) : String :=
  "(\n    " ++ Text.joinWith ",\n    " lines ++ "\n)"

def tableText (p : Platform) (t : TableDefinition) : String :=
  "\n" ++ ((t.remark.map remarkText).getD "") ++
    "CREATE TABLE " ++ p.quoteIdentifier t.table ++ "\n" ++
    block (t.items.map p.itemText) ++ Text.concat (t.options.map (" " ++ ·)) ++ ";\n"

def changeText : ColumnChange → String
  | .setType sqlType => "TYPE " ++ sqlType
  | .setDefault clause => "SET " ++ clause
  | .dropDefault => "DROP DEFAULT"
  | .setNotNull => "SET NOT NULL"
  | .dropNotNull => "DROP NOT NULL"

def placeText (p : Platform) : ColumnPlace → String
  | .first => " FIRST"
  | .after column => " AFTER " ++ p.quoteIdentifier column
  | .last => ""

def alterClauseText (p : Platform) : AlterClause → String
  | .dropPrimaryKey => "DROP PRIMARY KEY"
  | .change column c => "CHANGE " ++ p.quoteIdentifier column ++ " " ++ p.columnText c
  | .add c place => "ADD " ++ p.columnText c ++ p.placeText place
  | .drop column => "DROP " ++ p.quoteIdentifier column
  | .addPrimaryKey columns => "ADD " ++ p.primaryKeyText columns

def command (text : String) : String := "\n" ++ text ++ ";\n"

def alterText (p : Platform) (table change : String) : String :=
  command ("ALTER TABLE " ++ p.quoteIdentifier table ++ " " ++ change)

def dropTableText (p : Platform) (table : String) : String :=
  match p.dialect with
  | .generic => command ("DROP TABLE " ++ p.quoteIdentifier table)
  | .postgres => command ("DROP TABLE IF EXISTS " ++ p.quoteIdentifier table ++ " CASCADE")
  | _ => command ("DROP TABLE IF EXISTS " ++ p.quoteIdentifier table)

def dropIndexText (p : Platform) (name table : String) : String :=
  match p.dialect with
  | .mysql =>
    command ("DROP INDEX " ++ p.quoteIdentifier name ++ " ON " ++ p.quoteIdentifier table)
  | _ => command ("DROP INDEX " ++ p.quoteIdentifier name)

def dropForeignKeyText (p : Platform) (table name : String) : String :=
  match p.dialect with
  | .mysql => p.alterText table ("DROP FOREIGN KEY " ++ p.quoteIdentifier name)
  | _ => p.alterText table ("DROP CONSTRAINT " ++ p.quoteIdentifier name)

def dropPrimaryKeyText (p : Platform) (table name : String) : String :=
  match p.dialect with
  | .mysql => p.alterText table "DROP PRIMARY KEY"
  | _ => p.alterText table ("DROP CONSTRAINT " ++ p.quoteIdentifier name)

def renameTableText (p : Platform) (source target : String) : String :=
  match p.dialect with
  | .mysql =>
    command ("RENAME TABLE " ++ p.quoteIdentifier source ++ " TO " ++ p.quoteIdentifier target)
  | _ => p.alterText source ("RENAME TO " ++ p.quoteIdentifier target)

def addColumnText (p : Platform) (table : String) (c : ColumnClause) : String :=
  match p.dialect with
  | .sqlite => p.alterText table ("ADD COLUMN " ++ p.columnText c)
  | _ => p.alterText table ("ADD " ++ p.columnText c)

def statementText (p : Platform) : Statement → String
  | .heading table => p.headingText table
  | .foreignKeyChecks on => command ("SET FOREIGN_KEY_CHECKS = " ++ if on then "1" else "0")
  | .dropTable table => p.dropTableText table
  | .createTable definition => p.tableText definition
  | .createSequence name => command ("CREATE SEQUENCE " ++ p.quoteIdentifier name)
  | .dropSequence name => command ("DROP SEQUENCE " ++ p.quoteIdentifier name)
  | .describeTable table text =>
    command ("COMMENT ON TABLE " ++ p.quoteIdentifier table ++ " IS " ++ p.quote text)
  | .describeColumn table column text =>
    command ("COMMENT ON COLUMN " ++ p.quoteIdentifier table ++ "." ++
      p.quoteIdentifier column ++ " IS " ++ p.quote text)
  | .createIndex kind name table columns =>
    command ("CREATE " ++ kind ++ "INDEX " ++ p.quoteIdentifier name ++ " ON " ++
      p.quoteIdentifier table ++ " (" ++ p.indexColumnList columns ++ ")")
  | .dropIndex name table => p.dropIndexText name table
  | .addForeignKey table k => p.alterText table ("ADD " ++ p.foreignKeyText k)
  | .dropForeignKey table name => p.dropForeignKeyText table name
  | .dropPrimaryKey table name => p.dropPrimaryKeyText table name
  | .addPrimaryKey table columns => p.alterText table ("ADD " ++ p.primaryKeyText columns)
  | .renameTable source target => p.renameTableText source target
  | .renameColumn table source target =>
    p.alterText table
      ("RENAME COLUMN " ++ p.quoteIdentifier source ++ " TO " ++ p.quoteIdentifier target)
  | .modifyColumns table clauses =>
    p.alterText table ("MODIFY\n" ++ block (clauses.map p.columnText))
  | .addColumns table clauses =>
    p.alterText table ("ADD\n" ++ block (clauses.map p.columnText))
  | .addColumn table c => p.addColumnText table c
  | .alterColumn table column change =>
    p.alterText table ("ALTER COLUMN " ++ p.quoteIdentifier column ++ " " ++ changeText change)
  | .alterOnce table clause => p.alterText table (p.alterClauseText clause)
  | .alterTable table clauses =>
    command ("ALTER TABLE " ++ p.quoteIdentifier table ++ "\n\n  " ++
      Text.joinWith ",\n\n  " (clauses.map p.alterClauseText))
  | .dropColumn table column => p.alterText table ("DROP COLUMN " ++ p.quoteIdentifier column)
  | .saveRows copy columns table =>
    command ("CREATE TEMPORARY TABLE " ++ p.quoteIdentifier copy ++ " AS SELECT " ++
      p.columnList columns ++ " FROM " ++ p.quoteIdentifier table) ++
      "DROP TABLE " ++ p.quoteIdentifier table ++ ";\n"
  | .restoreRows copy columns table =>
    command ("INSERT INTO " ++ p.quoteIdentifier table ++ " (" ++
      p.columnList (columns.map Prod.snd) ++ ") SELECT " ++
      p.columnList (columns.map Prod.fst) ++ " FROM " ++ p.quoteIdentifier copy) ++
      "DROP TABLE " ++ p.quoteIdentifier copy ++ ";\n"

def scriptText (p : Platform) (script : Script) : String :=
  Text.concat (script.map p.statementText)

end Platform

end Tablecraft
