import Tablecraft.Model.FieldType

namespace Tablecraft

inductive DefaultValue
  | literal (text : String)
  | expression (text : String)
  deriving DecidableEq, Repr

namespace DefaultValue

def text : DefaultValue → String
  | literal text => text
  | expression text => text

def isExpression : DefaultValue → Bool
  | literal _ => false
  | expression _ => true

/-- Two spellings of the current time, in any case. -/
def isCurrentTime (text : String) : Bool :=
  ["CURRENT_TIMESTAMP", "NOW()"].contains (Text.upper text)

def agrees (v w : DefaultValue) : Bool :=
  v.isExpression == w.isExpression &&
    (v.text == w.text || (isCurrentTime v.text && isCurrentTime w.text))

def agreesOption : Option DefaultValue → Option DefaultValue → Bool
  | none, none => true
  | some v, some w => v.agrees w
  | _, _ => false

theorem agrees_refl (v : DefaultValue) : v.agrees v = true := by simp [agrees]

end DefaultValue

structure Domain where
  name : String
  fieldType : FieldType
  /-- The dialect type, when it is not the dialect's own choice for the abstract type. -/
  givenSqlType : Option String := none
  size : Option Nat := none
  scale : Option Nat := none
  default : Option DefaultValue := none
  description : Option String := none
  /-- The dialect type was replaced: no size is written after it. -/
  replaced : Bool := false
  deriving DecidableEq, Repr

namespace Domain

def ofType (t : FieldType) : Domain := { name := t.name, fieldType := t }

def ofSqlType (t : FieldType) (sqlType : String) (size : Option Nat) : Domain :=
  { ofType t with givenSqlType := some sqlType, size }

def sqlType (d : Domain) : String := d.givenSqlType.getD d.fieldType.name

def setSqlType (sqlType : String) (d : Domain) : Domain :=
  { d with givenSqlType := some sqlType }

def replaceSqlType (sqlType : String) (d : Domain) : Domain :=
  { d with givenSqlType := some sqlType, replaced := true }

def sizeText : Option Nat → Option Nat → String
  | some size, some scale => s!"({Text.ofNat size},{Text.ofNat scale})"
  | some size, none => s!"({Text.ofNat size})"
  | none, _ => ""

def sizeDefinition (d : Domain) : String := sizeText d.size d.scale

/-- All of `source`, except that its missing size or scale does not erase the present one. -/
def copyFrom (target source : Domain) : Domain :=
  { source with size := source.size <|> target.size, scale := source.scale <|> target.scale }

end Domain

end Tablecraft
