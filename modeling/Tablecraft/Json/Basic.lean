import Tablecraft.Text.Basic

namespace Tablecraft

/-- A string that escapes half of a surrogate pair spells no text, which is `none`. Numbers keep the
text in which they were written. -/
inductive Json
  | null
  | bool (value : Bool)
  | number (text : String)
  | string (value : Option String)
  | array (items : List Json)
  | object (members : List (Option String × Json))

namespace Json

instance : Inhabited Json := ⟨null⟩

def text (s : String) : Json := string (some s)

def nat (n : Nat) : Json := number (Text.ofNat n)

def int (n : Int) : Json :=
  number (if n < 0 then "-" ++ Text.ofNat n.natAbs else Text.ofNat n.natAbs)

def record (members : List (String × Json)) : Json :=
  object (members.map fun (key, value) => (some key, value))

def ofOption {α : Type} (toJson : α → Json) : Option α → Json
  | some a => toJson a
  | none => null

def ofList {α : Type} (toJson : α → Json) (items : List α) : Json := array (items.map toJson)

def texts (items : List String) : Json := ofList text items

def textOr (s : Option String) : Json := ofOption text s

def member? (key : String) : Json → Option Json
  | object members => (members.find? fun m => m.1 == some key).map Prod.snd
  | _ => none

def escapeChar (c : Char) : List Char :=
  if c = '"' then ['\\', '"']
  else if c = '\\' then ['\\', '\\']
  else if c = '\n' then ['\\', 'n']
  else if c = '\r' then ['\\', 'r']
  else if c = '\t' then ['\\', 't']
  else if c.toNat < 32 then
    ['\\', 'u', '0', '0', Text.hexDigit (c.toNat / 16), Text.hexDigit (c.toNat % 16)]
  else [c]

/-- A string between quotes; one that spells no text is written as half of a pair. -/
def quoted : Option String → String
  | some s => "\"" ++ Text.expand escapeChar s ++ "\""
  | none => "\"\\ud800\""

mutual

def render : Json → String
  | null => "null"
  | bool true => "true"
  | bool false => "false"
  | number text => text
  | string s => quoted s
  | array items => "[" ++ Text.joinWith "," (renderItems items) ++ "]"
  | object members => "\x7b" ++ Text.joinWith "," (renderMembers members) ++ "\x7d"

def renderItems : List Json → List String
  | [] => []
  | item :: rest => render item :: renderItems rest

def renderMembers : List (Option String × Json) → List String
  | [] => []
  | (key, value) :: rest => (quoted key ++ ":" ++ render value) :: renderMembers rest

end

end Json

end Tablecraft
