import Tablecraft.Text.Classes

namespace Tablecraft.Text

def concat (parts : List String) : String :=
  parts.foldl (· ++ ·) ""

def joinWith (separator : String) : List String → String
  | [] => ""
  | first :: rest => rest.foldl (fun text part => text ++ separator ++ part) first

def splitChars (p : Char → Bool) : List Char → List (List Char)
  | [] => [[]]
  | c :: rest =>
    match splitChars p rest with
    | [] => [[c]]
    | piece :: pieces => if p c then [] :: piece :: pieces else (c :: piece) :: pieces

def split (p : Char → Bool) (s : String) : List String :=
  (splitChars p s.toList).map String.ofList

def trimChars (cs : List Char) : List Char :=
  ((cs.dropWhile isWhiteSpace).reverse.dropWhile isWhiteSpace).reverse

def trim (s : String) : String := String.ofList (trimChars s.toList)

def trimEnd (s : String) : String :=
  String.ofList ((s.toList.reverse.dropWhile isWhiteSpace).reverse)

def expand (f : Char → List Char) (s : String) : String :=
  String.ofList (s.toList.flatMap f)

def without (p : Char → Bool) (s : String) : String :=
  String.ofList (s.toList.filter fun c => !p c)

def stripLeading? : List Char → List Char → Option (List Char)
  | [], cs => some cs
  | _ :: _, [] => none
  | p :: ps, c :: cs => if p = c then stripLeading? ps cs else none

/-- Replaces the occurrences of a pattern from left to right; `skip` counts the characters of an
occurrence that are still to be passed over. -/
def replaceChars (pattern replacement : List Char) : Nat → List Char → List Char
  | _, [] => []
  | skip + 1, _ :: rest => replaceChars pattern replacement skip rest
  | 0, c :: rest =>
    match stripLeading? pattern (c :: rest) with
    | some _ => replacement ++ replaceChars pattern replacement (pattern.length - 1) rest
    | none => c :: replaceChars pattern replacement 0 rest

def replace (pattern replacement s : String) : String :=
  String.ofList (replaceChars pattern.toList replacement.toList 0 s.toList)

def splitAtLast? (pattern : List Char) : List Char → Option (List Char × List Char)
  | [] => none
  | c :: rest =>
    match splitAtLast? pattern rest with
    | some (before, after) => some (c :: before, after)
    | none => (stripLeading? pattern (c :: rest)).map fun after => ([], after)

def byteLength (s : String) : Nat := s.utf8ByteSize

/-- The longest leading part that takes at most `budget` bytes of UTF-8. -/
def takeBytes : Nat → List Char → List Char
  | _, [] => []
  | budget, c :: rest =>
    if c.utf8Size ≤ budget then c :: takeBytes (budget - c.utf8Size) rest else []

/-- The text cut to at most `limit` bytes of UTF-8, never inside a character. -/
def truncate (s : String) (limit : Nat) : String :=
  if byteLength s ≤ limit then s else String.ofList (takeBytes limit s.toList)

def repeated (count : Nat) (c : Char) : String := String.ofList (List.replicate count c)

def padRight (width : Nat) (s : String) : String :=
  s ++ repeated (width - s.length) ' '

def ofNat (n : Nat) : String := String.ofList (Nat.toDigits 10 n)

def hexDigit (n : Nat) : Char :=
  if n < 10 then Char.ofNat (48 + n) else Char.ofNat (87 + n)

/-- One character as an inspection shows it: the usual escapes, and the code point of what would not
be visible on its own. -/
def inspectChar (c : Char) : List Char :=
  if c = '\x00' then ['\\', '0']
  else if c = '\t' then ['\\', 't']
  else if c = '\r' then ['\\', 'r']
  else if c = '\n' then ['\\', 'n']
  else if c = '"' then ['\\', '"']
  else if c = '\\' then ['\\', '\\']
  else if isCombining c || !isPrintable c then
    ['\\', 'u', '\x7b'] ++ Nat.toDigits 16 c.toNat ++ ['\x7d']
  else [c]

def inspect (s : String) : String :=
  "\"" ++ expand inspectChar s ++ "\""

end Tablecraft.Text
