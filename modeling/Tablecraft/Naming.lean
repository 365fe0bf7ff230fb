import Tablecraft.NameMap
import Tablecraft.Text.Case
import Tablecraft.Text.Digest

namespace Tablecraft.Naming

def defaultLimit : Nat := 64

/-- A capital that follows a letter or digit other than a capital starts a new word. -/
def snakeChars (afterWord : Bool) : List Char → List Char
  | [] => []
  | c :: rest =>
    if Text.isUppercase c then
      (if afterWord then ['_'] else []) ++ Text.lowerChar c ++ snakeChars false rest
    else c :: snakeChars (Text.isAlphanumeric c) rest

def snakeCase (name : String) : String :=
  String.ofList (snakeChars false name.toList)

def studlyCase (name : String) : String :=
  let words := Text.split (fun c => c = '_' || c = '-' || c = ' ') name
  Text.concat ((words.filter fun w => w ≠ "").map Text.capitalize)

def hashOf (parts : List String) : String :=
  String.ofList ((Text.Digest.hexDigits (Text.lower (Text.joinWith ":" parts))).take 6)

/-- A name of at most `limit` bytes: the table, an underscore, the stem and the hash of the parts.
Only the table is shortened, and it is left out when nothing of it would stay. -/
def hashedName (table : Option String) (stem : String) (parts : List String) (limit : Nat) :
    String :=
  let tail := stem ++ hashOf parts
  let head := Text.truncate (table.getD "") (limit - (Text.byteLength tail + 1))
  if head = "" then Text.truncate tail limit else head ++ "_" ++ tail

structure Cache where
  counters : NameMap Nat := ∅
  names : NameMap String := ∅
  deriving Repr

/-- `base ++ suffix` if it fits. Otherwise the base is cut to make room for a number counted for
the suffix; the same question has the same answer again. -/
def Cache.shorten (cache : Cache) (base suffix : String) (limit : Nat) : String × Cache :=
  let full := base ++ suffix
  if Text.byteLength full ≤ limit then (full, cache)
  else
    match cache.names.get? full with
    | some name => (name, cache)
    | none =>
      let count := (cache.counters.get? suffix).getD 0 + 1
      let tail := suffix ++ "_" ++ Text.ofNat count
      let name := Text.truncate base (limit - Text.byteLength tail) ++ tail
      (name,
        { counters := cache.counters.insert suffix count
          names := cache.names.insert full name })

end Tablecraft.Naming
