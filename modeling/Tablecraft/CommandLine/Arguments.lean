namespace Tablecraft.CommandLine

inductive Command
  | create (schema : String) (output : Option String)
  | check (schema : String)
  | migrate (source target : String) (output : Option String)
  | listPlatforms
  deriving DecidableEq, Repr

structure Invocation where
  platform : Option String := none
  config : Option String := none
  verbose : Bool := false
  command : Command
  deriving DecidableEq, Repr

inductive Request
  | run (invocation : Invocation)
  | showHelp
  | showVersion
  deriving DecidableEq, Repr

inductive Setting
  | platform
  | config
  | output
  deriving DecidableEq, Repr

inductive Flag
  | verbose
  | help
  | version
  deriving DecidableEq, Repr

structure Level where
  settings : List Setting := [.platform, .config]
  flags : List Flag := [.verbose, .help]
  operands : Nat := 0
  deriving DecidableEq, Repr

def Setting.name : Setting → String
  | platform => "platform"
  | config => "config"
  | output => "output"

def Flag.name : Flag → String
  | verbose => "verbose"
  | help => "help"
  | version => "version"

def Setting.letter : Setting → Char
  | platform => 'p'
  | config => 'c'
  | output => 'o'

def Flag.letter : Flag → Char
  | verbose => 'v'
  | help => 'h'
  | version => 'V'

/-- Paths are never empty. -/
def Setting.admits : Setting → String → Bool
  | platform, _ => true
  | _, value => value != ""

def Level.outer : Level := { flags := [.verbose, .help, .version] }

def Level.ofCommand? : String → Option Level
  | "sql" => some { settings := [.platform, .config, .output], operands := 1 }
  | "check" => some { operands := 1 }
  | "diff" => some { settings := [.platform, .config, .output], operands := 2 }
  | "platforms" => some {}
  | _ => none

def isCommandName (word : String) : Bool := word == "help" || (Level.ofCommand? word).isSome

/-- Reading stops early with what is to be shown, or with none where the words make no sense. -/
abbrev Reading := Except (Option Request)

def misuse {α : Type} : Reading α := .error none

structure Given where
  settings : List (Setting × String) := []
  verbose : Bool := false
  operands : List String := []
  pending : Option (Setting × Option String) := none
  operandsOnly : Bool := false
  deriving DecidableEq, Repr

namespace Given

def setting? (g : Given) (s : Setting) : Option String := g.settings.lookup s

def addSetting (s : Setting) (value : String) (g : Given) : Reading Given :=
  if (g.setting? s).isSome || !s.admits value then misuse
  else .ok { g with settings := (s, value) :: g.settings }

def settle (g : Given) : Reading Given :=
  match g.pending with
  | none => .ok g
  | some (_, none) => misuse
  | some (s, some value) => { g with pending := none }.addSetting s value

def addOperand (level : Level) (word : String) (g : Given) : Reading Given := do
  let g ← g.settle
  if g.operands.length < level.operands && word != "" then
    .ok { g with operands := g.operands ++ [word] }
  else misuse

def startSetting (s : Setting) (attached : Option String) (g : Given) : Reading Given := do
  let g ← g.settle
  match attached with
  | some value => g.addSetting s value
  | none => .ok { g with pending := some (s, none) }

def raise (f : Flag) (g : Given) : Reading Given := do
  let g ← g.settle
  match f with
  | .verbose => if g.verbose then misuse else .ok { g with verbose := true }
  | .help => .error (some .showHelp)
  | .version => .error (some .showVersion)

def takeLong (level : Level) (word : List Char) (g : Given) : Reading Given :=
  let name := String.ofList (word.takeWhile (· ≠ '='))
  let attached :=
    match word.dropWhile (· ≠ '=') with
    | _ :: value => some (String.ofList value)
    | [] => none
  match level.settings.find? (·.name == name), level.flags.find? (·.name == name) with
  | some s, _ => g.startSetting s attached
  | none, some f => if attached.isSome then misuse else g.raise f
  | none, none => misuse

def attachedValue : List Char → Option String
  | [] => none
  | '=' :: value => some (String.ofList value)
  | value => some (String.ofList value)

def takeLetters (level : Level) : List Char → Given → Reading Given
  | [], g => .ok g
  | c :: rest, g =>
    match level.settings.find? (·.letter == c), level.flags.find? (·.letter == c) with
    | some s, _ => g.startSetting s (attachedValue rest)
    | none, some f => do takeLetters level rest (← g.raise f)
    | none, none => misuse

def takePlain (level : Level) (word : String) (g : Given) : Reading Given :=
  match g.pending with
  | some (s, none) => .ok { g with pending := some (s, some word) }
  | _ => g.addOperand level word

def take (level : Level) (g : Given) (word : String) : Reading Given :=
  if g.operandsOnly then g.addOperand level word
  else
    match word.toList with
    | ['-', '-'] => .ok { g with operandsOnly := true }
    | '-' :: '-' :: rest => g.takeLong level rest
    | '-' :: c :: rest => g.takeLetters level (c :: rest)
    | _ => g.takePlain level word

def isOpen (g : Given) : Bool :=
  !g.operandsOnly && g.pending.all fun p => p.2.isSome

end Given

def takeOuter : Given → List String → Reading (Given × String × List String)
  | _, [] => misuse
  | g, word :: rest =>
    if g.isOpen && isCommandName word then .ok (g, word, rest)
    else do takeOuter (← g.take Level.outer word) rest

def helpRequest : List String → Reading Request
  | [] => .ok .showHelp
  | [topic] => if isCommandName topic then .ok .showHelp else misuse
  | _ => misuse

def command (name : String) (g : Given) : Reading Command :=
  match name, g.operands with
  | "sql", [schema] => .ok (.create schema (g.setting? .output))
  | "check", [schema] => .ok (.check schema)
  | "diff", [source, target] => .ok (.migrate source target (g.setting? .output))
  | "platforms", [] => .ok .listPlatforms
  | _, _ => misuse

/-- The request of a command; what follows its name wins over what stands before it. -/
def commandRequest (outer : Given) (name : String) (words : List String) : Reading Request :=
  match Level.ofCommand? name with
  | none => misuse
  | some level => do
    let inner ← words.foldlM (Given.take level) {}
    let inner ← inner.settle
    let command ← command name inner
    let outer ← outer.settle
    .ok (.run
      { platform := inner.setting? .platform <|> outer.setting? .platform
        config := inner.setting? .config <|> outer.setting? .config
        verbose := inner.verbose || outer.verbose
        command })

def Request.read? (words : List String) : Option Request :=
  let reading : Reading Request := do
    let (outer, name, rest) ← takeOuter {} words
    if name = "help" then helpRequest rest else commandRequest outer name rest
  match reading with
  | .ok request => some request
  | .error early => early

end Tablecraft.CommandLine
