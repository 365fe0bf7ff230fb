import Tablecraft.CommandLine.Run

namespace Tablecraft.CommandLine

inductive Refusal
  | missing
  | notADirectory
  | isADirectory
  | nameTooLong
  deriving DecidableEq, Repr

def Refusal.message : Refusal → String
  | missing => "No such file or directory (os error 2)"
  | notADirectory => "Not a directory (os error 20)"
  | isADirectory => "Is a directory (os error 21)"
  | nameTooLong => "File name too long (os error 36)"

inductive Place
  | inside (reversed : List String)
  | root
  | devices
  | outside
  deriving DecidableEq, Repr

def Place.parent : Place → Place
  | inside (_ :: above) => inside above
  | inside [] => outside
  | root => root
  | devices => root
  | outside => outside

structure Path where
  start : Place
  way : List String
  last : String
  endsOpen : Bool
  deriving DecidableEq, Repr

namespace Path

/-- The bytes of a path and the byte that ends it. -/
def maxSize : Nat := 4096

def maxNameSize : Nat := 255

def parts (text : String) : List String := (Text.split (· = '/') text).filter (· ≠ "")

def read (text : String) : Except Refusal Path :=
  if text.isEmpty then .error .missing
  else if maxSize ≤ Text.byteLength text then .error .nameTooLong
  else
    .ok
      { start := if text.toList.head? = some '/' then .root else .inside []
        way := (parts text).dropLast
        last := (parts text).getLast?.getD "."
        endsOpen := text.toList.getLast? = some '/' }

/-- The last part always names a directory. -/
def endsInDots (p : Path) : Bool := p.last == "." || p.last == ".."

end Path

abbrev Files := List (List String × String)

inductive Node
  | file (content : String)
  | directory (place : Place)
  deriving DecidableEq, Repr

namespace Files

def walk (reversed : List String) (part : String) : List String :=
  if part = "." then reversed
  else if part = ".." then reversed.drop 1
  else part :: reversed

def ofTexts (files : List (String × String)) : Files :=
  files.map fun (path, text) => (((Path.parts path).foldl walk []).reverse, text)

def hasDirectory (files : Files) (parts : List String) : Bool :=
  files.any fun f => f.1 != parts && parts.isPrefixOf f.1

def systemDirectories : List String := ["etc", "home", "tmp", "usr", "var"]

def node? (files : Files) : Place → String → Option Node
  | .inside above, name =>
    let parts := (name :: above).reverse
    match files.lookup parts with
    | some content => some (.file content)
    | none =>
      if files.hasDirectory parts then some (.directory (.inside (name :: above))) else none
  | .root, name =>
    if name = "dev" then some (.directory .devices)
    else if systemDirectories.contains name then some (.directory .outside)
    else none
  | .devices, name => if name = "null" then some (.file "") else none
  | .outside, _ => none

def find (files : Files) (place : Place) (name : String) : Except Refusal (Option Node) :=
  if Path.maxNameSize < Text.byteLength name then .error .nameTooLong
  else .ok (files.node? place name)

def enter (files : Files) (place : Place) (part : String) : Except Refusal Place := do
  if part = "." then .ok place
  else if part = ".." then .ok place.parent
  else
    match ← files.find place part with
    | some (.directory inner) => .ok inner
    | some (.file _) => .error .notADirectory
    | none => .error .missing

def follow (files : Files) (p : Path) : Except Refusal Place :=
  p.way.foldlM files.enter p.start

def readText (files : Files) (path : String) : Except Refusal String := do
  let p ← Path.read path
  let place ← files.follow p
  if p.endsInDots then .error .isADirectory
  else
    match ← files.find place p.last with
    | some (.file content) => if p.endsOpen then .error .notADirectory else .ok content
    | some (.directory _) => .error .isADirectory
    | none => .error .missing

def put (files : Files) (place : Place) (name content : String) : Files :=
  match place with
  | .inside above =>
    let parts := (name :: above).reverse
    (parts, content) :: files.filter (·.1 != parts)
  | _ => files

def writeText (files : Files) (path content : String) : Except Refusal Files := do
  let p ← Path.read path
  let place ← files.follow p
  if p.endsInDots || p.endsOpen then .error .isADirectory
  else
    match ← files.find place p.last with
    | some (.directory _) => .error .isADirectory
    | _ => .ok (files.put place p.last content)

def changes (before after : Files) : List (String × String) :=
  after.filterMap fun (parts, content) =>
    match parts with
    | [name] => if before.lookup parts = some content then none else some (name, content)
    | _ => none

end Files

def memory : Host (StateM Files) where
  read path := do
    match (← get).readText path with
    | .ok content => pure content
    | .error refusal => throw refusal.message
  isFile path := do return ((← get).readText path).isOk
  write path content := do
    match (← get).writeText path content with
    | .ok files => set files
    | .error refusal => throw refusal.message

end Tablecraft.CommandLine
