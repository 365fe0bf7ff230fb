import Tablecraft.Behavior.Timestampable
import Tablecraft.CommandLine.Arguments
import Tablecraft.CommandLine.Summary
import Tablecraft.Compilation
import Tablecraft.Config
import Tablecraft.Ddl.Migration
import Tablecraft.Diff.Compare

namespace Tablecraft.CommandLine

abbrev Run (m : Type → Type) := ExceptT String m

structure Host (m : Type → Type) where
  read : String → Run m String
  isFile : String → m Bool
  write : String → String → Run m Unit

structure Surroundings where
  platform : Option String := none
  configDirectory : Option String := none
  deriving DecidableEq, Repr

inductive Outcome
  | finished (output : String)
  | failed (message : String)
  | misused
  deriving DecidableEq, Repr

def Outcome.code : Outcome → Nat
  | finished _ => 0
  | failed _ => 1
  | misused => 2

variable {m : Type → Type} [Monad m]

def orFail {α : Type} (context : String) (result : Except Fault α) : Run m α :=
  match result with
  | .ok a => pure a
  | .error fault => throw (context ++ fault.chain)

def readFile (host : Host m) (context path : String) : Run m String :=
  (host.read path).adapt fun reason => context ++ (Fault.unreadable reason).chain

def readConfig (host : Host m) (path : String) : Run m Config := do
  let text ← readFile host "" path
  orFail "" (Config.parse (some path) text)

/-- Where a configuration is looked for when no word names one. -/
def configCandidates (around : Surroundings) : List String :=
  "strata.toml" ::
    (around.configDirectory.map fun directory => directory ++ "/strata/config.toml").toList

def discoverConfig (host : Host m) : List String → Run m Config
  | [] => pure {}
  | path :: rest => do
    if ← host.isFile path then readConfig host path else discoverConfig host rest

structure Targets where
  config : Config
  forced : Option Dialect
  deriving DecidableEq, Repr

def resolveTargets (host : Host m) (around : Surroundings) (i : Invocation) :
    Run m Targets := do
  let config ←
    match i.config with
    | some path => readConfig host path
    | none => discoverConfig host (configCandidates around)
  match i.platform <|> around.platform with
  | none => pure { config, forced := none }
  | some name =>
    let dialect ← orFail "" (Dialect.read name)
    pure { config, forced := some dialect }

def loadSchema (host : Host m) (t : Targets) (path : String) : Run m Schema := do
  let context := "Failed to load " ++ path ++ ": "
  let text ← readFile host context path
  let schema ← orFail context (Schema.parse Registry.builtins text)
  let finalized :=
    (Schema.finalizeEach Registry.builtins (t.config.platformFor t.forced)).result
      (t.config.apply schema)
  orFail ("Failed to finalize " ++ path ++ ": ") finalized

def renderEach (t : Targets) (render : Platform → Database → Except Fault String)
    (databases : List Database) : Except Fault String := do
  let texts ← databases.mapM fun db => do
    let p ← t.config.platformFor t.forced db
    render p db
  .ok (Text.concat texts)

/-- The migration of one database; one that is new is created. -/
def migrationFrom (old : Schema) (p : Platform) (db : Database) : Except Fault String :=
  match old.database? db.name with
  | none => p.creationText db
  | some previous =>
    let diff := DatabaseDiff.compare previous db
    if diff.isEmpty then .ok "" else p.migrationText diff

def deliver (host : Host m) (text : String) : Option String → Run m String
  | none => pure text
  | some path => do
    (host.write path text).adapt fun reason => "Failed to write " ++ path ++ ": " ++ reason
    pure (line ("✓ Wrote " ++ path))

def platformLine (d : Dialect) : String :=
  line (Text.padRight 8 d.name ++ " " ++ Text.joinWith ", " d.aliases)

def runCommand (host : Host m) (around : Surroundings) (i : Invocation) : Run m String := do
  match i.command with
  | .create path output =>
    let t ← resolveTargets host around i
    let schema ← loadSchema host t path
    let text ← orFail "" (renderEach t Platform.creationText schema.databases)
    deliver host text output
  | .check path =>
    let t ← resolveTargets host around i
    let schema ← loadSchema host t path
    orFail "" (renderEach t (fun p db => .ok (db.summary p)) schema.databases)
  | .migrate source target output =>
    let t ← resolveTargets host around i
    let old ← loadSchema host t source
    let new ← loadSchema host t target
    let text ← orFail "" (renderEach t (migrationFrom old) new.databases)
    deliver host text output
  | .listPlatforms => pure (Text.concat (Dialect.all.map platformLine))

def version : String := "strata 0.3.0"

def help : String :=
  Text.joinWith "\n"
    ["Schema model and dialect-aware DDL compiler",
      "",
      "Usage: strata [OPTIONS] <COMMAND>",
      "",
      "Commands:",
      "  sql <SCHEMA> [-o <OUTPUT>]       Render the creation script",
      "  check <SCHEMA>                   Finalize the schema and print a summary of every entity",
      "  diff <FROM> <TO> [-o <OUTPUT>]   Render migration DDL from one schema version to another",
      "  platforms                        List the supported dialects",
      "  help                             Print this message",
      "",
      "Options:",
      "  -p, --platform <PLATFORM>  Target dialect, overrides the document and the config file",
      "  -c, --config <CONFIG>      Path to strata.toml",
      "  -v, --verbose              Debug logging",
      "  -h, --help                 Print help",
      "  -V, --version              Print version"]

def run (host : Host m) (around : Surroundings) (words : List String) : m Outcome := do
  match Request.read? words with
  | none => pure .misused
  | some .showHelp => pure (.finished (line help))
  | some .showVersion => pure (.finished (line version))
  | some (.run invocation) =>
    match ← (runCommand host around invocation).run with
    | .ok output => pure (.finished output)
    | .error message => pure (.failed message)

end Tablecraft.CommandLine
