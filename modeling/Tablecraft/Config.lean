import Tablecraft.Dialect
import Tablecraft.Model.Schema
import Tablecraft.Toml.Reader

namespace Tablecraft

structure GeneratorConfig where
  platform : String := "sql"
  identifierQuoting : Bool := true
  heavyIndexing : Bool := false
  deriving DecidableEq, Repr

structure MysqlConfig where
  tableType : String := "InnoDB"
  engineKeyword : String := "ENGINE"
  deriving DecidableEq, Repr

structure Config where
  generator : GeneratorConfig := {}
  mysql : MysqlConfig := {}
  deriving DecidableEq, Repr

namespace Config

def text? : Toml.Node → Option String
  | .text value => some value
  | _ => none

def flag? : Toml.Node → Option Bool
  | .flag value => some value
  | _ => none

/-- The values under the keys. A group is a table, or an array of the values of the first keys. A
moment counts as a group that has none of them. -/
def group? (keys : List String) : Toml.Node → Option (List (Option Toml.Node))
  | .table _ entries => some (keys.map fun key => Toml.find? key entries)
  | .list items => some (keys.mapIdx fun i _ => items[i]?)
  | .tables items => some (keys.mapIdx fun i _ => (items[i]?).map (.table .header))
  | .moment _ => some (keys.map fun _ => none)
  | .text _ | .flag _ | .number _ => none

def valueOr {α : Type} (read : Toml.Node → Option α) (default : α) : Option Toml.Node → Option α
  | some node => read node
  | none => some default

def generator? (node : Toml.Node) : Option GeneratorConfig := do
  let ([platform, quoting, heavy]) ←
      group? ["platform", "identifier_quoting", "heavy_indexing"] node
    | none
  let platform ← valueOr text? "sql" platform
  let identifierQuoting ← valueOr flag? true quoting
  let heavyIndexing ← valueOr flag? false heavy
  some { platform, identifierQuoting, heavyIndexing }

def mysql? (node : Toml.Node) : Option MysqlConfig := do
  let ([tableType, keyword]) ← group? ["table_type", "table_engine_keyword"] node
    | none
  let tableType ← valueOr text? "InnoDB" tableType
  let engineKeyword ← valueOr text? "ENGINE" keyword
  some { tableType, engineKeyword }

def ofEntries? (entries : Toml.Entries) : Option Config := do
  let generator ← valueOr generator? {} (Toml.find? "generator" entries)
  let mysql ← valueOr mysql? {} (Toml.find? "mysql" entries)
  some { generator, mysql }

def parse (path : Option String) (text : String) : Except Fault Config :=
  match (Toml.read? text).bind ofEntries? with
  | some config => .ok config
  | none => .error (.malformedConfig path)

def settings (c : Config) : RenderSettings :=
  { quoteIdentifiers := c.generator.identifierQuoting
    tableType := c.mysql.tableType
    engineKeyword := c.mysql.engineKeyword }

def dialect (c : Config) : Except Fault Dialect := Dialect.read c.generator.platform

def platform (c : Config) : Except Fault Platform :=
  c.dialect.map fun dialect => { dialect, settings := c.settings }

def platformFor (c : Config) (forced : Option Dialect) (db : Database) : Except Fault Platform :=
  match forced <|> db.dialect with
  | some dialect => .ok { dialect, settings := c.settings }
  | none => c.platform

def apply (c : Config) (s : Schema) : Schema :=
  if c.generator.heavyIndexing then
    { s with databases := s.databases.map fun db => { db with heavyIndexing := true } }
  else s

end Config

end Tablecraft
