import Tablecraft.Decimal.Shortest
import Tablecraft.Text.Basic

namespace Tablecraft.Decimal

inductive Number
  | finite (negative : Bool) (magnitude : Binary64)
  | notANumber
  deriving DecidableEq, Repr

def digitValue (c : Char) : Nat := c.toNat - 48

def natOfDigits (cs : List Char) : Nat :=
  cs.foldl (fun n c => 10 * n + digitValue c) 0

def exponent? : List Char → Option Int
  | [] => some 0
  | e :: rest =>
    if e = 'e' ∨ e = 'E' then
      let (negative, digits) :=
        match rest with
        | '-' :: digits => (true, digits)
        | '+' :: digits => (false, digits)
        | digits => (false, digits)
      if digits.isEmpty || !digits.all Char.isDigit then none
      else some (if negative then -(natOfDigits digits : Int) else natOfDigits digits)
    else none

/-- Digits with an optional point among or around them, then an optional exponent. -/
def magnitude? (cs : List Char) : Option Binary64 :=
  let whole := cs.takeWhile Char.isDigit
  let rest := cs.dropWhile Char.isDigit
  let (fraction, rest) :=
    match rest with
    | '.' :: rest => (rest.takeWhile Char.isDigit, rest.dropWhile Char.isDigit)
    | rest => ([], rest)
  if whole.isEmpty && fraction.isEmpty then none
  else (exponent? rest).map fun e =>
    Binary64.ofDecimal (natOfDigits (whole ++ fraction)) (e - fraction.length)

def isWord (word : String) (cs : List Char) : Bool :=
  cs.map Char.toLower == word.toList

def read? (text : String) : Option Number :=
  let (negative, cs) :=
    match text.toList with
    | '-' :: cs => (true, cs)
    | '+' :: cs => (false, cs)
    | cs => (false, cs)
  if isWord "inf" cs || isWord "infinity" cs then some (.finite negative .infinite)
  else if isWord "nan" cs then some .notANumber
  else (magnitude? cs).map (.finite negative)

def dropTrailingZeros : Nat → Nat → Nat
  | 0, n => n
  | fuel + 1, n => if n ≠ 0 ∧ n % 10 = 0 then dropTrailingZeros fuel (n / 10) else n

/-- Positional notation, with a point only where the number has a fraction. -/
def positional (d : Digits) : List Char :=
  let digits := Nat.toDigits 10 (dropTrailingZeros 20 d.digits)
  if d.point ≤ 0 then
    '0' :: '.' :: (List.replicate (-d.point).toNat '0' ++ digits)
  else
    let point := d.point.toNat
    if digits.length ≤ point then digits ++ List.replicate (point - digits.length) '0'
    else digits.take point ++ '.' :: digits.drop point

def magnitudeText : Binary64 → String
  | .infinite => "inf"
  | .finite 0 _ => "0"
  | .finite m e => String.ofList (positional (Shortest.digits m e))

/-- The normal form of a number. The sign of zero is kept. -/
def Number.text : Number → String
  | .notANumber => "NaN"
  | .finite negative m => (if negative then "-" else "") ++ magnitudeText m

def normalize? (text : String) : Option String :=
  (read? text).map Number.text

def isNumeric (text : String) : Bool := (read? text).isSome

def isFinite (text : String) : Bool :=
  match read? text with
  | some (.finite _ (.finite _ _)) => true
  | _ => false

end Tablecraft.Decimal
