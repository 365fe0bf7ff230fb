import Tablecraft.Decimal.Literal
import Tablecraft.Ddl.NativeType

namespace Tablecraft

namespace Literal

def quoteDoubling (text : String) : String :=
  "'" ++ Text.expand (fun c => if c = '\'' then ['\'', '\''] else [c]) text ++ "'"

/-- Quotes of both kinds and backslashes after a backslash; the null character as backslash and
zero. -/
def escapeBackslash (c : Char) : List Char :=
  if c = '\'' || c = '"' || c = '\\' then ['\\', c]
  else if c = '\x00' then ['\\', '0']
  else [c]

def quoteEscaping (text : String) : String :=
  "'" ++ Text.expand escapeBackslash text ++ "'"

def isTruthy (value : String) : Bool :=
  ["1", "true", "y", "yes"].contains (Text.lower (Text.trim value))

def booleanDigit (value : String) : String := if isTruthy value then "1" else "0"

/-- The elements of a comma-separated list between bars; none for an empty list. -/
def arrayText? (value : String) : Option String :=
  let values := (Text.split (· = ',') value).map Text.trim
  if values = [""] then none
  else some ("||" ++ Text.joinWith " | " values ++ "||")

def numeric (e : Entity) (f : Field) (value : String) : Except Fault String :=
  match Decimal.normalize? (Text.trim value) with
  | some text => .ok text
  | none => .error (.invalidNumericDefault e.name f.name value)

end Literal

namespace Platform

def identifierQuote (p : Platform) : Char :=
  match p.dialect with
  | .mysql => '\x60'
  | _ => '"'

def quoteIdentifier (p : Platform) (text : String) : String :=
  if p.settings.quoteIdentifiers then
    let q := p.identifierQuote
    String.ofList [q] ++ Text.expand (fun c => if c = '.' then [q, '.', q] else [c]) text ++
      String.ofList [q]
  else text

def quote (p : Platform) (text : String) : String :=
  match p.dialect with
  | .mysql => Literal.quoteEscaping text
  | _ => Literal.quoteDoubling text

def booleanText (p : Platform) (value : String) : String :=
  match p.dialect with
  | .postgres => if Literal.isTruthy value then "TRUE" else "FALSE"
  | _ => Literal.booleanDigit value

def columnList (p : Platform) (columns : List String) : String :=
  Text.joinWith ", " (columns.map p.quoteIdentifier)

end Platform

end Tablecraft
