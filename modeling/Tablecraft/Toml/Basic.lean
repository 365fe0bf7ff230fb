namespace Tablecraft.Toml

inductive Origin
  | implicit
  /-- Named by a dotted key. -/
  | dotted
  | header
  | inline
  deriving DecidableEq, Repr

inductive Node
  | text (value : String)
  | flag (value : Bool)
  | number (written : String)
  | moment (written : String)
  | list (items : List Node)
  | table (origin : Origin) (entries : List (String × Node))
  | tables (items : List (List (String × Node)))

abbrev Entries := List (String × Node)

def find? (key : String) : Entries → Option Node
  | [] => none
  | (k, node) :: rest => if key = k then some node else find? key rest

def replace (key : String) (node : Node) (entries : Entries) : Entries :=
  entries.map fun (k, old) => if k = key then (k, node) else (k, old)

def remove (key : String) (entries : Entries) : Entries :=
  entries.filter fun entry => entry.1 ≠ key

def onLast? (f : Entries → Option Entries) (tables : List Entries) : Option (List Entries) :=
  match tables.reverse with
  | [] => none
  | last :: before => (f last).map fun entries => (entries :: before).reverse

/-- Changes the table at the end of the path. Missing tables on the way are made with the given
origin; `passable` says which tables may be entered. -/
def descend (made : Origin) (passable : Origin → Bool) (f : Origin → Entries → Option Entries) :
    List String → Origin → Entries → Option Entries
  | [], origin, entries => f origin entries
  | key :: path, _, entries =>
    match find? key entries with
    | none => do
      let inner ← descend made passable f path made []
      some (entries ++ [(key, .table made inner)])
    | some (.table origin inner) =>
      if passable origin then do
        let inner ← descend made passable f path origin inner
        some (replace key (.table origin inner) entries)
      else none
    | some (.tables items) => do
      let items ← onLast? (descend made passable f path .header) items
      some (replace key (.tables items) entries)
    | some _ => none

def insertNew (key : String) (node : Node) (entries : Entries) : Option Entries :=
  match find? key entries with
  | none => some (entries ++ [(key, node)])
  | some _ => none

/-- The value of a possibly dotted key. Its tables must be ones that dotted keys have made. -/
def insertDotted (path : List String) (key : String) (node : Node) (entries : Entries) :
    Option Entries :=
  descend .dotted (fun origin => origin = .implicit || origin = .dotted)
    (fun origin inner =>
      if path.isEmpty || origin = .dotted then insertNew key node inner else none)
    path .header entries

def underHeader (f : Entries → Option Entries) (path : List String) (entries : Entries) :
    Option Entries :=
  descend .implicit (· ≠ .inline) (fun _ inner => f inner) path .header entries

def atHeader? (path : List String) : Entries → Option Entries :=
  path.foldl
    (fun found key =>
      fun entries => (found entries).bind fun inner =>
        match find? key inner with
        | some (.table _ inner) => some inner
        | some (.tables items) => items.getLast?
        | _ => none)
    some

structure Reading where
  root : Entries := []
  path : List String := []
  isArray : Bool := false
  current : Entries := []

namespace Reading

def settle? (r : Reading) : Option Entries :=
  match r.path.reverse with
  | [] => some r.current
  | key :: before =>
    let parent := before.reverse
    if r.isArray then
      underHeader
        (fun entries =>
          match find? key entries with
          | none => some (entries ++ [(key, .tables [r.current])])
          | some (.tables items) => some (replace key (.tables (items ++ [r.current])) entries)
          | some _ => none)
        parent r.root
    else underHeader (insertNew key (.table .header r.current)) parent r.root

def addKey? (path : List String) (key : String) (node : Node) (r : Reading) : Option Reading :=
  (insertDotted path key node r.current).map fun current => { r with current }

/-- Opens the table of a header, which may have been named on the way to another. -/
def openTable? (path : List String) (r : Reading) : Option Reading := do
  let root ← r.settle?
  match path.reverse with
  | [] => none
  | key :: before =>
    let parent := before.reverse
    let root ← underHeader some parent root
    let entries ← atHeader? parent root
    match find? key entries with
    | none => some { root, path }
    | some (.table .implicit inner) =>
      let root ← underHeader (fun entries => some (remove key entries)) parent root
      some { root, path, current := inner }
    | some _ => none

def openArray? (path : List String) (r : Reading) : Option Reading := do
  let root ← r.settle?
  match path.reverse with
  | [] => none
  | key :: before =>
    let parent := before.reverse
    let root ← underHeader some parent root
    let entries ← atHeader? parent root
    match find? key entries with
    | none | some (.tables _) => some { root, path, isArray := true }
    | some _ => none

end Reading

end Tablecraft.Toml
