import Tablecraft.Json.Basic
import Tablecraft.NameMap

namespace Tablecraft.Json

def asText? : Json → Option String
  | string s => s
  | _ => none

def asFlag? : Json → Option Bool
  | bool b => some b
  | _ => none

def asInt? : Json → Option Int
  | number digits => digits.toInt?
  | _ => none

def asItems : Json → List Json
  | array items => items
  | _ => []

def asPair? (j : Json) : Option (String × String) :=
  match j.asItems.filterMap asText? with
  | [a, b] => some (a, b)
  | _ => none

def get? (j : Json) (key : String) : Option Json :=
  match j.member? key with
  | some null => none
  | value => value

def text? (j : Json) (key : String) : Option String := (j.get? key).bind asText?

def flag? (j : Json) (key : String) : Option Bool := (j.get? key).bind asFlag?

def flag (j : Json) (key : String) : Bool := (j.flag? key).getD false

def int? (j : Json) (key : String) : Option Int := (j.get? key).bind asInt?

def nat? (j : Json) (key : String) : Option Nat := (j.int? key).map Int.toNat

def items (j : Json) (key : String) : List Json := ((j.get? key).map asItems).getD []

def textItems (j : Json) (key : String) : List String := (j.items key).filterMap asText?

def pairItems (j : Json) (key : String) : List (String × String) :=
  (j.items key).filterMap asPair?

def entries (j : Json) (key : String) : List (String × Json) :=
  match j.get? key with
  | some (object members) =>
    (NameMap.ofList (members.filterMap fun (key, value) => key.map (·, value))).entries
  | _ => []

end Tablecraft.Json
