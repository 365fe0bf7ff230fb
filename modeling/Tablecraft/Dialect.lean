import Tablecraft.Fault
import Tablecraft.Text.Case

namespace Tablecraft

inductive Dialect
  | generic
  | mysql
  | postgres
  | sqlite
  deriving DecidableEq, Repr

namespace Dialect

def all : List Dialect := [generic, mysql, postgres, sqlite]

def name : Dialect → String
  | generic => "sql"
  | mysql => "mysql"
  | postgres => "pgsql"
  | sqlite => "sqlite"

def aliases : Dialect → List String
  | generic => ["sql", "default", "generic"]
  | mysql => ["mysql"]
  | postgres => ["pgsql", "postgres", "postgresql"]
  | sqlite => ["sqlite"]

def read (text : String) : Except Fault Dialect :=
  let lower := Text.lower (Text.trim text)
  match all.find? (·.aliases.contains lower) with
  | some d => .ok d
  | none => .error (.unknownPlatform text)

end Dialect

structure RenderSettings where
  quoteIdentifiers : Bool := true
  tableType : String := "InnoDB"
  engineKeyword : String := "ENGINE"
  deriving DecidableEq, Repr

structure Platform where
  dialect : Dialect := .generic
  settings : RenderSettings := {}
  deriving DecidableEq, Repr

namespace Platform

def name (p : Platform) : String := p.dialect.name

def maxIdentifierLength (p : Platform) : Nat :=
  match p.dialect with
  | .postgres => 63
  | _ => 64

def supportsIndexSize (p : Platform) : Bool := p.dialect == .mysql

def supportsSchemas (p : Platform) : Bool := p.dialect == .postgres

end Platform

end Tablecraft
