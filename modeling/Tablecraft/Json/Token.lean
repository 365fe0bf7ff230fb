import Tablecraft.Json.Basic

namespace Tablecraft.Json

inductive Token
  | openBrace | closeBrace | openBracket | closeBracket | colon | comma
  | null
  | bool (value : Bool)
  | number (text : String)
  | string (value : Option String)
  deriving DecidableEq, Repr

/-- The characters of an unfinished string in reverse, `none` once they spell no text, and the first
half of a surrogate pair that waits for the second. -/
structure Spelling where
  chars : Option (List Char) := some []
  high : Option Nat := none
  deriving Repr

namespace Spelling

def push (s : Spelling) (c : Char) : Spelling :=
  match s.high with
  | some _ => ⟨none, none⟩
  | none => ⟨s.chars.map (c :: ·), none⟩

def isHighHalf (n : Nat) : Bool := 0xD800 ≤ n && n < 0xDC00

def isLowHalf (n : Nat) : Bool := 0xDC00 ≤ n && n < 0xE000

def pair (high low : Nat) : Char :=
  Char.ofNat (0x10000 + (high - 0xD800) * 0x400 + (low - 0xDC00))

def pushUnit (s : Spelling) (n : Nat) : Spelling :=
  match s.high with
  | some high => if isLowHalf n then ⟨s.chars.map (pair high n :: ·), none⟩ else ⟨none, none⟩
  | none =>
    if isHighHalf n then ⟨s.chars, some n⟩
    else if isLowHalf n then ⟨none, none⟩
    else ⟨s.chars.map (Char.ofNat n :: ·), none⟩

def finish (s : Spelling) : Option String :=
  match s.high with
  | some _ => none
  | none => s.chars.map fun cs => String.ofList cs.reverse

end Spelling

inductive Reading
  | between
  | number (reversed : List Char)
  | word (reversed : List Char)
  | string (s : Spelling)
  | escape (s : Spelling)
  /-- An escape with the value of its digits and the number of digits to come. -/
  | unit (s : Spelling) (value missing : Nat)
  deriving Repr

structure Scan where
  reading : Reading := .between
  tokens : List Token := []
  deriving Repr

namespace Scan

def isBlank (c : Char) : Bool := c = ' ' || c = '\t' || c = '\n' || c = '\r'

def isNumberChar (c : Char) : Bool :=
  c.isDigit || c = '-' || c = '+' || c = '.' || c = 'e' || c = 'E'

def isExponent : List Char → Bool
  | [] => true
  | e :: rest =>
    (e = 'e' || e = 'E') &&
      match rest with
      | sign :: digits =>
        if sign = '+' || sign = '-' then !digits.isEmpty && digits.all Char.isDigit
        else (sign :: digits).all Char.isDigit
      | [] => false

def isNumber (cs : List Char) : Bool :=
  let cs :=
    match cs with
    | '-' :: rest => rest
    | _ => cs
  let whole := cs.takeWhile Char.isDigit
  let rest := cs.dropWhile Char.isDigit
  let wholeOk := whole == ['0'] || (!whole.isEmpty && whole.head? != some '0')
  wholeOk &&
    match rest with
    | '.' :: rest =>
      !(rest.takeWhile Char.isDigit).isEmpty && isExponent (rest.dropWhile Char.isDigit)
    | _ => isExponent rest

def word? : List Char → Option Token
  | ['n', 'u', 'l', 'l'] => some .null
  | ['t', 'r', 'u', 'e'] => some (.bool true)
  | ['f', 'a', 'l', 's', 'e'] => some (.bool false)
  | _ => none

def punctuation? (c : Char) : Option Token :=
  if c = '\x7b' then some .openBrace
  else if c = '\x7d' then some .closeBrace
  else if c = '[' then some .openBracket
  else if c = ']' then some .closeBracket
  else if c = ':' then some .colon
  else if c = ',' then some .comma
  else none

def settle? (s : Scan) : Option Scan :=
  match s.reading with
  | .between => some s
  | .number reversed =>
    if isNumber reversed.reverse then
      some ⟨.between, .number (String.ofList reversed.reverse) :: s.tokens⟩
    else none
  | .word reversed => (word? reversed.reverse).map fun t => ⟨.between, t :: s.tokens⟩
  | _ => none

def start? (tokens : List Token) (c : Char) : Option Scan :=
  if isBlank c then some ⟨.between, tokens⟩
  else if c = '"' then some ⟨.string {}, tokens⟩
  else if c.isDigit || c = '-' then some ⟨.number [c], tokens⟩
  else if c.isAlpha then some ⟨.word [c], tokens⟩
  else (punctuation? c).map fun t => ⟨.between, t :: tokens⟩

def hexValue? (c : Char) : Option Nat :=
  if c.isDigit then some (c.toNat - 48)
  else if 'a' ≤ c ∧ c ≤ 'f' then some (c.toNat - 87)
  else if 'A' ≤ c ∧ c ≤ 'F' then some (c.toNat - 55)
  else none

def escapeValue? (c : Char) : Option Char :=
  if c = '"' || c = '\\' || c = '/' then some c
  else if c = 'b' then some '\x08'
  else if c = 'f' then some '\x0c'
  else if c = 'n' then some '\n'
  else if c = 'r' then some '\r'
  else if c = 't' then some '\t'
  else none

def step? (s : Scan) (c : Char) : Option Scan :=
  match s.reading with
  | .between => start? s.tokens c
  | .number reversed =>
    if isNumberChar c then some { s with reading := .number (c :: reversed) }
    else s.settle?.bind fun s => start? s.tokens c
  | .word reversed =>
    if c.isAlpha then some { s with reading := .word (c :: reversed) }
    else s.settle?.bind fun s => start? s.tokens c
  | .string spelling =>
    if c = '"' then some ⟨.between, .string spelling.finish :: s.tokens⟩
    else if c = '\\' then some { s with reading := .escape spelling }
    else if c.toNat < 32 then none
    else some { s with reading := .string (spelling.push c) }
  | .escape spelling =>
    if c = 'u' then some { s with reading := .unit spelling 0 4 }
    else (escapeValue? c).map fun e => { s with reading := .string (spelling.push e) }
  | .unit spelling value missing =>
    (hexValue? c).map fun digit =>
      let value := 16 * value + digit
      if missing ≤ 1 then { s with reading := .string (spelling.pushUnit value) }
      else { s with reading := .unit spelling value (missing - 1) }

end Scan

def tokens? (text : String) : Option (List Token) := do
  let s ← text.toList.foldlM Scan.step? ({} : Scan)
  let s ← s.settle?
  some s.tokens.reverse

end Tablecraft.Json
