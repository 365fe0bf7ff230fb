import Tablecraft.Text.Basic

namespace Tablecraft

inductive Mention
  | index (name : String)
  | relation (name : String)
  | relationOf (name entity : String)
  | behavior (id : String)
  | field (entity name : String)
  deriving DecidableEq, Repr

inductive Side
  | source
  | target
  deriving DecidableEq, Repr

inductive DiffFault
  | entity (name : String) (side : Side) (database : String)
  | field (name entity : String)
  | index (name entity : String)
  | relation (name entity : String)
  deriving DecidableEq, Repr

inductive Fault
  | duplicateField (entity field : String)
  | duplicateIndex (entity index : String)
  | duplicateEntity (database entity : String)
  | duplicateDatabase (database : String)
  | duplicateBehavior (owner behavior : String)
  | emptyIndex (entity index : String)
  | unknownField (entity field : String) (mention : Mention)
  | unknownEntity (entity : String) (mention : Mention) (available : List String)
  | unknownDomain (domain : String) (mention : Mention) (available : List String)
  | missingForeignPrimaryKey (entity relation foreign : String)
  | synthesizedFieldCollision (entity relation field : String)
  | duplicateInheritance (entity existing field : String)
  | invalidAction (text : String)
  | unknownType (text : String)
  | unknownBehavior (name : String)
  | behaviorLoop (limit : Nat)
  | invalidDiff (cause : DiffFault)
  | defaultOnLargeType (entity field sqlType : String)
  | expressionOnDate (entity field : String)
  | autoIncrementWithoutNativeId (entity field : String)
  | unmappableType (platform entity field fieldType : String)
  | invalidNumericDefault (entity field value : String)
  | unknownPlatform (text : String)
  | unknownIdMethod (text : String)
  | untypedField (entity field : String)
  | malformedConfig (path : Option String)
  | malformedDocument
  | unreadable (reason : String)
  deriving DecidableEq, Repr

inductive FaultClass
  | schemaIntegrity
  | dialectIncompatibility
  | configuration
  | inputOutput
  deriving DecidableEq, Repr

def Mention.text : Mention → String
  | .index name => s!"index '{name}'"
  | .relation name => s!"relation '{name}'"
  | .relationOf name entity => s!"relation '{name}' of entity '{entity}'"
  | .behavior id => s!"behavior '{id}'"
  | .field entity name => s!"field '{entity}.{name}'"

def Side.text : Side → String
  | .source => "from"
  | .target => "to"

def DiffFault.text : DiffFault → String
  | .entity name side database =>
    s!"entity '{name}' does not exist in the '{side.text}' database '{database}'"
  | .field name owner => s!"field '{name}' does not exist in entity '{owner}'"
  | .index name owner => s!"index '{name}' does not exist in entity '{owner}'"
  | .relation name owner => s!"relation '{name}' does not exist in entity '{owner}'"

namespace Fault

def listed (names : List String) : String := Text.joinWith ", " names

def message : Fault → String
  | duplicateField entity field => s!"Duplicate field '{field}' in entity '{entity}'"
  | duplicateIndex entity index => s!"Duplicate index '{index}' in entity '{entity}'"
  | duplicateEntity database entity => s!"Duplicate entity '{entity}' in database '{database}'"
  | duplicateDatabase database => s!"Duplicate database '{database}' in schema"
  | duplicateBehavior owner behavior =>
    s!"Behavior '{behavior}' is already registered on '{owner}'"
  | emptyIndex entity index => s!"Index '{index}' on entity '{entity}' has no fields"
  | unknownField entity field mention =>
    s!"Field '{field}' referenced by {mention.text} does not exist in entity '{entity}'"
  | unknownEntity entity mention available =>
    s!"Entity '{entity}' referenced by {mention.text} does not exist. " ++
      s!"Available entities: {listed available}"
  | unknownDomain domain mention available =>
    s!"Domain '{domain}' referenced by {mention.text} does not exist. " ++
      s!"Available domains: {listed available}"
  | missingForeignPrimaryKey entity relation foreign =>
    s!"Relation '{relation}' of entity '{entity}' points to '{foreign}', " ++
      "which has no primary key"
  | synthesizedFieldCollision entity relation field =>
    s!"Cannot synthesize field '{field}' for relation '{relation}': " ++
      s!"entity '{entity}' already has a field with that name"
  | duplicateInheritance entity existing field =>
    s!"Entity '{entity}' already has inheritance field '{existing}', cannot add '{field}'"
  | invalidAction text =>
    s!"Invalid referential action '{text}'. Expected: " ++
      "NONE, CASCADE, RESTRICT, SET NULL, SET DEFAULT or NO ACTION"
  | unknownType text => s!"Unknown field type '{text}'"
  | unknownBehavior name => s!"Unknown behavior '{name}'"
  | behaviorLoop limit =>
    s!"Behavior application did not converge after {Text.ofNat limit} iterations"
  | invalidDiff cause => s!"Invalid diff: {cause.text}"
  | defaultOnLargeType entity field sqlType =>
    s!"Field '{entity}.{field}': {sqlType} columns cannot have a default value in MySQL"
  | expressionOnDate entity field =>
    s!"Field '{entity}.{field}': DATE columns cannot have default expressions in MySQL"
  | autoIncrementWithoutNativeId entity field =>
    s!"You have specified autoIncrement for field '{field}', " ++
      s!"but entity '{entity}' does not use the native id method"
  | unmappableType platform entity field fieldType =>
    s!"Type {fieldType} of field '{entity}.{field}' has no mapping on platform '{platform}'"
  | invalidNumericDefault entity field value =>
    s!"Field '{entity}.{field}': default value '{value}' is not numeric"
  | unknownPlatform text =>
    s!"Unknown platform '{text}'. Expected: sql, mysql, pgsql or sqlite"
  | unknownIdMethod text =>
    s!"Configuration error: Unknown id method '{text}'. Expected: native or none"
  | untypedField entity field =>
    s!"Configuration error: Field '{entity}.{field}' needs a type or a domain"
  | malformedConfig none => "Configuration error: TOML parse error"
  | malformedConfig (some path) => s!"Configuration error: {path}: TOML parse error"
  | malformedDocument => "Invalid schema document"
  | unreadable reason => s!"IO error: {reason}"

def chain : Fault → String
  | unreadable reason => s!"{(unreadable reason).message}: {reason}"
  | fault => fault.message

def classOf : Fault → FaultClass
  | defaultOnLargeType .. | expressionOnDate .. | autoIncrementWithoutNativeId ..
  | unmappableType .. | invalidNumericDefault .. | unknownPlatform .. => .dialectIncompatibility
  | unknownIdMethod .. | untypedField .. | malformedConfig .. => .configuration
  | unreadable .. => .inputOutput
  | _ => .schemaIntegrity

def code : Fault → String
  | duplicateField .. => "DuplicateField"
  | duplicateIndex .. => "DuplicateIndex"
  | duplicateEntity .. => "DuplicateEntity"
  | duplicateDatabase .. => "DuplicateDatabase"
  | duplicateBehavior .. => "DuplicateBehavior"
  | emptyIndex .. => "EmptyIndex"
  | unknownField .. => "UnknownField"
  | unknownEntity .. => "UnknownEntity"
  | unknownDomain .. => "UnknownDomain"
  | missingForeignPrimaryKey .. => "MissingForeignPrimaryKey"
  | synthesizedFieldCollision .. => "SynthesizedFieldCollision"
  | duplicateInheritance .. => "DuplicateInheritance"
  | invalidAction .. => "InvalidAction"
  | unknownType .. => "UnknownType"
  | unknownBehavior .. => "UnknownBehavior"
  | behaviorLoop .. => "BehaviorLoop"
  | invalidDiff .. => "InvalidDiff"
  | defaultOnLargeType .. | expressionOnDate .. => "IllegalDefault"
  | autoIncrementWithoutNativeId .. => "AutoIncrementWithoutNativeId"
  | unmappableType .. => "UnmappableType"
  | invalidNumericDefault .. => "InvalidNumericDefault"
  | unknownPlatform .. => "UnknownPlatform"
  | unknownIdMethod .. | untypedField .. | malformedConfig .. => "Config"
  | malformedDocument => "Document"
  | unreadable .. => "Io"

/-- The wording is settled by the cause, except where a foreign reader found the fault. -/
def hasFixedMessage : Fault → Bool
  | malformedConfig _ | malformedDocument => false
  | _ => true

end Fault

def FaultClass.code : FaultClass → String
  | .schemaIntegrity => "SchemaIntegrity"
  | .dialectIncompatibility => "DialectIncompatibility"
  | .configuration => "Configuration"
  | .inputOutput => "Io"

end Tablecraft
