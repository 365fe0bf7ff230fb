import Tablecraft.Json.Token

namespace Tablecraft.Json

/-- An open array, an open object, or an open object with a key that waits for its value; contents
are in reverse. -/
inductive Frame
  | array (items : List Json)
  | object (members : List (Option String × Json))
  | member (members : List (Option String × Json)) (key : Option String)

inductive Expected
  | value
  | itemOrClose
  | key
  | keyOrClose
  | colon
  | separator
  | nothing
  deriving DecidableEq, Repr

structure Building where
  stack : List Frame := []
  expected : Expected := .value
  result : Option Json := none

namespace Building

def place? (stack : List Frame) (v : Json) : Option Building :=
  match stack with
  | [] => some ⟨[], .nothing, some v⟩
  | .array items :: rest => some ⟨.array (v :: items) :: rest, .separator, none⟩
  | .member members key :: rest =>
    some ⟨.object ((key, v) :: members) :: rest, .separator, none⟩
  | .object _ :: _ => none

def startValue? (stack : List Frame) : Token → Option Building
  | .openBrace => some ⟨.object [] :: stack, .keyOrClose, none⟩
  | .openBracket => some ⟨.array [] :: stack, .itemOrClose, none⟩
  | .null => place? stack .null
  | .bool b => place? stack (.bool b)
  | .number text => place? stack (.number text)
  | .string s => place? stack (.string s)
  | _ => none

def takeKey? (stack : List Frame) (t : Token) : Option Building :=
  match stack, t with
  | .object members :: rest, .string key => some ⟨.member members key :: rest, .colon, none⟩
  | _, _ => none

def close? (stack : List Frame) (t : Token) : Option Building :=
  match stack, t with
  | .array items :: rest, .closeBracket => place? rest (.array items.reverse)
  | .object members :: rest, .closeBrace => place? rest (.object members.reverse)
  | _, _ => none

def isClosing : Token → Bool
  | .closeBracket | .closeBrace => true
  | _ => false

def separate? (stack : List Frame) (t : Token) : Option Building :=
  if isClosing t then close? stack t
  else
    match stack, t with
    | .array _ :: _, .comma => some ⟨stack, .value, none⟩
    | .object _ :: _, .comma => some ⟨stack, .key, none⟩
    | _, _ => none

def step? (b : Building) (t : Token) : Option Building :=
  match b.expected with
  | .value => startValue? b.stack t
  | .itemOrClose => if isClosing t then close? b.stack t else startValue? b.stack t
  | .key => takeKey? b.stack t
  | .keyOrClose => if isClosing t then close? b.stack t else takeKey? b.stack t
  | .colon => if t = .colon then some ⟨b.stack, .value, none⟩ else none
  | .separator => separate? b.stack t
  | .nothing => none

end Building

def read? (text : String) : Option Json := do
  let tokens ← tokens? text
  let b ← tokens.foldlM Building.step? ({} : Building)
  b.result

end Tablecraft.Json
