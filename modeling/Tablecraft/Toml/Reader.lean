import Tablecraft.Decimal.Literal
import Tablecraft.Json.Token
import Tablecraft.Toml.Basic

namespace Tablecraft.Toml

abbrev Parser (α : Type) := List Char → Option (α × List Char)

def isBlank (c : Char) : Bool := c = ' ' || c = '\t'

def skipBlanks (cs : List Char) : List Char := cs.dropWhile isBlank

def isPlain (c : Char) : Bool := c = '\t' || (32 ≤ c.toNat && c.toNat ≠ 127)

def newline? : List Char → Option (List Char)
  | '\n' :: rest => some rest
  | '\r' :: '\n' :: rest => some rest
  | _ => none

def skipComment (cs : List Char) : List Char :=
  match cs with
  | '#' :: rest => rest.dropWhile isPlain
  | _ => cs

def endOfLine? (cs : List Char) : Option (List Char) :=
  match skipComment (skipBlanks cs) with
  | [] => some []
  | rest => newline? rest

def skipLines : Nat → List Char → Option (List Char)
  | 0, cs => some cs
  | fuel + 1, cs =>
    match skipBlanks cs with
    | '#' :: rest =>
      match newline? (rest.dropWhile isPlain) with
      | some rest => skipLines fuel rest
      | none => none
    | rest =>
      match newline? rest with
      | some rest => skipLines fuel rest
      | none => some rest

def hexNumber? (digits : List Char) : Option Nat :=
  digits.foldlM (fun n c => (Json.Scan.hexValue? c).map fun d => 16 * n + d) 0

def scalar? (count : Nat) (cs : List Char) : Option (Char × List Char) := do
  let digits := cs.take count
  let n ← hexNumber? digits
  if digits.length = count && (n < 0xD800 || (0xE000 ≤ n && n < 0x110000)) then
    some (Char.ofNat n, cs.drop count)
  else none

def escape? : List Char → Option (Char × List Char)
  | 'b' :: rest => some ('\x08', rest)
  | 'f' :: rest => some ('\x0c', rest)
  | 'n' :: rest => some ('\n', rest)
  | 'r' :: rest => some ('\r', rest)
  | 't' :: rest => some ('\t', rest)
  | '"' :: rest => some ('"', rest)
  | '\\' :: rest => some ('\\', rest)
  | 'u' :: rest => scalar? 4 rest
  | 'U' :: rest => scalar? 8 rest
  | _ => none

def basicString : Nat → List Char → Parser String
  | 0, _, _ => none
  | fuel + 1, reversed, cs =>
    match cs with
    | '"' :: rest => some (String.ofList reversed.reverse, rest)
    | '\\' :: rest => (escape? rest).bind fun (c, rest) => basicString fuel (c :: reversed) rest
    | c :: rest => if isPlain c then basicString fuel (c :: reversed) rest else none
    | [] => none

def literalString (cs : List Char) : Option (String × List Char) :=
  let body := cs.takeWhile fun c => isPlain c && c ≠ '\''
  match cs.drop body.length with
  | '\'' :: rest => some (String.ofList body, rest)
  | _ => none

def skipFolded : Nat → List Char → List Char
  | 0, cs => cs
  | fuel + 1, cs =>
    match newline? (skipBlanks cs) with
    | some rest => skipFolded fuel rest
    | none => skipBlanks cs

/-- The closing quotes of a string over several lines; up to two more belong to the string. -/
def closeLong? (quote : Char) (cs : List Char) : Option (List Char × List Char) :=
  let quotes := cs.takeWhile (· = quote)
  let count := min quotes.length 5
  if 3 ≤ count then some (List.replicate (count - 3) quote, cs.drop count) else none

def longString (quote : Char) (escapes : Bool) : Nat → List Char → Parser String
  | 0, _, _ => none
  | fuel + 1, reversed, cs =>
    match closeLong? quote cs with
    | some (quotes, rest) => some (String.ofList (quotes ++ reversed).reverse, rest)
    | none =>
      match newline? cs, cs with
      | some rest, _ => longString quote escapes fuel ('\n' :: reversed) rest
      | none, c :: rest =>
        if escapes && c = '\\' then
          match newline? (skipBlanks rest) with
          | some rest =>
            longString quote escapes fuel reversed (skipFolded rest.length rest)
          | none =>
            (escape? rest).bind fun (c, rest) =>
              longString quote escapes fuel (c :: reversed) rest
        else if isPlain c then longString quote escapes fuel (c :: reversed) rest
        else none
      | none, [] => none

def skipFirstNewline (cs : List Char) : List Char := (newline? cs).getD cs

def string? (cs : List Char) : Option (String × List Char) :=
  let fuel := cs.length + 1
  match cs with
  | '"' :: '"' :: '"' :: rest => longString '"' true fuel [] (skipFirstNewline rest)
  | '\'' :: '\'' :: '\'' :: rest => longString '\'' false fuel [] (skipFirstNewline rest)
  | '"' :: rest => basicString fuel [] rest
  | '\'' :: rest => literalString rest
  | _ => none

def digitGroups? (isDigit : Char → Bool) (cs : List Char) : Option (List Char) :=
  let groups := Text.splitChars (· = '_') cs
  if groups.all fun g => !g.isEmpty && g.all isDigit then some groups.flatten else none

def integerLimit : Nat := 9223372036854775808

def radixNumber? (radix : Nat) (isDigit : Char → Bool) (cs : List Char) : Option Unit := do
  let digits ← digitGroups? isDigit cs
  let n ← digits.foldlM (fun n c => (Json.Scan.hexValue? c).map fun d => radix * n + d) 0
  if n < integerLimit then some () else none

def decimalDigits? (cs : List Char) : Option (List Char) := do
  let digits ← digitGroups? Char.isDigit cs
  if digits.head? = some '0' && digits.length ≠ 1 then none else some digits

def isSign (c : Char) : Bool := c = '+' || c = '-'

def withoutSign (cs : List Char) : List Char :=
  match cs with
  | c :: rest => if isSign c then rest else cs
  | [] => []

def isDecimalInteger (cs : List Char) : Bool :=
  match decimalDigits? (withoutSign cs) with
  | some digits =>
    let n := Decimal.natOfDigits digits
    n < integerLimit || (n == integerLimit && cs.head? == some '-')
  | none => false

def isInteger (cs : List Char) : Bool :=
  match cs with
  | '0' :: 'x' :: rest => (radixNumber? 16 (fun c => (Json.Scan.hexValue? c).isSome) rest).isSome
  | '0' :: 'o' :: rest => (radixNumber? 8 (fun c => '0' ≤ c && c ≤ '7') rest).isSome
  | '0' :: 'b' :: rest => (radixNumber? 2 (fun c => c = '0' || c = '1') rest).isSome
  | _ => isDecimalInteger cs

def isExponent (cs : List Char) : Bool :=
  match cs with
  | [] => true
  | _ :: rest => (digitGroups? Char.isDigit (withoutSign rest)).isSome

def isFloat (cs : List Char) : Bool :=
  let body := withoutSign cs
  let isExponentMark (c : Char) : Bool := c = 'e' || c = 'E'
  let mantissa := body.takeWhile fun c => !isExponentMark c
  let power := body.drop mantissa.length
  let whole := mantissa.takeWhile (· ≠ '.')
  let fraction := mantissa.drop whole.length
  let fractionOk :=
    match fraction with
    | [] => !power.isEmpty
    | _ :: digits => (digitGroups? Char.isDigit digits).isSome
  let plain := Text.without (· = '_') (String.ofList cs)
  (body == "inf".toList || body == "nan".toList) ||
    ((decimalDigits? whole).isSome && fractionOk && isExponent power &&
      Decimal.read? plain != some (.finite false .infinite))

def natBetween (low high : Nat) (digits : List Char) (count : Nat) : Bool :=
  let n := Decimal.natOfDigits digits
  digits.length == count && digits.all Char.isDigit && low ≤ n && n ≤ high

def isLeapYear (year : Nat) : Bool := (year % 4 == 0 && year % 100 != 0) || year % 400 == 0

def daysIn (year month : Nat) : Nat :=
  if month = 2 then (if isLeapYear year then 29 else 28)
  else if [4, 6, 9, 11].contains month then 30
  else 31

def isDate (cs : List Char) : Bool :=
  match Text.splitChars (· = '-') cs with
  | [year, month, day] =>
    natBetween 0 9999 year 4 && natBetween 1 12 month 2 &&
      natBetween 1 (daysIn (Decimal.natOfDigits year) (Decimal.natOfDigits month)) day 2
  | _ => false

def isTime (cs : List Char) : Bool :=
  match Text.splitChars (· = ':') cs with
  | [hour, minute, second] =>
    let whole := second.takeWhile (· ≠ '.')
    let fractionOk :=
      match second.drop whole.length with
      | [] => true
      | _ :: digits => !digits.isEmpty && digits.all Char.isDigit
    natBetween 0 23 hour 2 && natBetween 0 59 minute 2 && natBetween 0 60 whole 2 && fractionOk
  | _ => false

def isOffset (cs : List Char) : Bool :=
  match cs with
  | [] => true
  | [z] => z = 'Z' || z = 'z'
  | sign :: rest =>
    isSign sign &&
      match Text.splitChars (· = ':') rest with
      | [hour, minute] => natBetween 0 23 hour 2 && natBetween 0 59 minute 2
      | _ => false

def isTimeWithOffset (cs : List Char) : Bool :=
  let time := cs.takeWhile fun c => c.isDigit || c = ':' || c = '.'
  isTime time && isOffset (cs.drop time.length)

def isMoment (cs : List Char) : Bool :=
  isDate cs || isTime cs ||
    match cs.drop 10 with
    | separator :: rest =>
      (separator = 'T' || separator = 't' || separator = ' ') && isDate (cs.take 10) &&
        isTimeWithOffset rest
    | [] => false

def isScalarChar (c : Char) : Bool :=
  c.isAlphanum || isSign c || c = '_' || c = '.' || c = ':'

/-- The characters of a number or moment. A space belongs to it between a date and a digit. -/
def scalarChars (cs : List Char) : List Char :=
  let first := cs.takeWhile isScalarChar
  match cs.drop first.length with
  | ' ' :: d :: rest =>
    if isDate first && d.isDigit then first ++ ' ' :: (d :: rest).takeWhile isScalarChar
    else first
  | _ => first

def number? (cs : List Char) : Option (Node × List Char) :=
  let written := scalarChars cs
  let rest := cs.drop written.length
  let text := String.ofList written
  if isInteger written || isFloat written then some (.number text, rest)
  else if isMoment written then some (.moment text, rest)
  else none

def isBareKeyChar (c : Char) : Bool := c.isAlphanum || c = '_' || c = '-'

def simpleKey? (cs : List Char) : Option (String × List Char) :=
  match cs with
  | '"' :: rest => basicString (cs.length + 1) [] rest
  | '\'' :: rest => literalString rest
  | _ =>
    let key := cs.takeWhile isBareKeyChar
    if key.isEmpty then none else some (String.ofList key, cs.drop key.length)

/-- Keys with dots between them; the last one comes first in the result. -/
def dottedKey? : Nat → List String → List Char → Option (List String × List Char)
  | 0, _, _ => none
  | fuel + 1, reversed, cs => do
    let (key, rest) ← simpleKey? (skipBlanks cs)
    match skipBlanks rest with
    | '.' :: rest => dottedKey? fuel (key :: reversed) rest
    | rest => some (key :: reversed, rest)

/-- No more keys than this, less one, stand in one dotted key, and no more values nest. -/
def nestingLimit : Nat := 80

def keyPath? (cs : List Char) : Option ((List String × String) × List Char) := do
  let (keys, rest) ← dottedKey? (cs.length + 1) [] cs
  match keys with
  | key :: path => if path.length + 1 < nestingLimit then some ((path.reverse, key), rest) else none
  | [] => none

def items? (value : Parser Node) : Nat → List Node → Parser (List Node)
  | 0, _, _ => none
  | fuel + 1, reversed, cs => do
    match ← skipLines cs.length cs with
    | ']' :: rest => some (reversed.reverse, rest)
    | cs =>
      let (item, rest) ← value cs
      match ← skipLines rest.length rest with
      | ',' :: rest => items? value fuel (item :: reversed) rest
      | ']' :: rest => some ((item :: reversed).reverse, rest)
      | _ => none

def assignment? (value : Parser Node) (cs : List Char) :
    Option ((List String × String × Node) × List Char) := do
  let ((path, key), rest) ← keyPath? cs
  match rest with
  | '=' :: rest =>
    let (node, rest) ← value (skipBlanks rest)
    some ((path, key, node), rest)
  | _ => none

def inlineEntries? (value : Parser Node) : Nat → Entries → Parser Entries
  | 0, _, _ => none
  | fuel + 1, entries, cs => do
    let ((path, key, node), rest) ← assignment? value cs
    let entries ← insertDotted path key node entries
    match skipBlanks rest with
    | ',' :: rest => inlineEntries? value fuel entries rest
    | '\x7d' :: rest => some (entries, rest)
    | _ => none

def word? (cs : List Char) : Option (Node × List Char) :=
  match cs with
  | 't' :: 'r' :: 'u' :: 'e' :: rest => some (.flag true, rest)
  | 'f' :: 'a' :: 'l' :: 's' :: 'e' :: rest => some (.flag false, rest)
  | _ => none

def value? : Nat → Parser Node
  | 0, _ => none
  | depth + 1, cs =>
    match cs with
    | '[' :: rest =>
      if depth = 0 then none
      else (items? (value? depth) (rest.length + 1) [] rest).map fun (items, rest) =>
        (.list items, rest)
    | '\x7b' :: rest =>
      if depth = 0 then none
      else
        match skipBlanks rest with
        | '\x7d' :: rest => some (.table .inline [], rest)
        | rest =>
          (inlineEntries? (value? depth) (rest.length + 1) [] rest).map fun (entries, rest) =>
            (.table .inline entries, rest)
    | c :: _ =>
      if c = '"' || c = '\'' then (string? cs).map fun (s, rest) => (.text s, rest)
      else
        match word? cs with
        | some found => some found
        | none => number? cs
    | [] => none

def header? (r : Reading) (cs : List Char) : Option (Reading × List Char) :=
  match cs with
  | '[' :: rest => do
    let ((path, key), rest) ← keyPath? rest
    match rest with
    | ']' :: ']' :: rest =>
      let r ← r.openArray? (path ++ [key])
      let rest ← endOfLine? rest
      some (r, rest)
    | _ => none
  | _ => do
    let ((path, key), rest) ← keyPath? cs
    match rest with
    | ']' :: rest =>
      let r ← r.openTable? (path ++ [key])
      let rest ← endOfLine? rest
      some (r, rest)
    | _ => none

def line? (r : Reading) (cs : List Char) : Option (Reading × List Char) :=
  match skipBlanks cs with
  | '[' :: rest => header? r rest
  | cs =>
    match endOfLine? cs with
    | some rest => some (r, rest)
    | none => do
      let ((path, key, node), rest) ← assignment? (value? nestingLimit) cs
      let r ← r.addKey? path key node
      let rest ← endOfLine? rest
      some (r, rest)

def lines? : Nat → Reading → List Char → Option Reading
  | 0, _, _ => none
  | fuel + 1, r, cs =>
    if cs.isEmpty then some r else (line? r cs).bind fun (r, rest) => lines? fuel r rest

/-- The entries of the document that the text says; a byte order mark may stand in front. -/
def read? (text : String) : Option Entries :=
  let cs :=
    match text.toList with
    | '\ufeff' :: rest => rest
    | cs => cs
  (lines? (cs.length + 1) {} cs).bind Reading.settle?

end Tablecraft.Toml
