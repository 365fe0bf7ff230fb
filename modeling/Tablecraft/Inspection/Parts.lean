import Tablecraft.Json.Basic
import Tablecraft.Model.Entity

namespace Tablecraft

def DefaultValue.toJson (v : DefaultValue) : Json :=
  .record
    [("value", .text v.text), ("kind", .text (if v.isExpression then "Expression" else "Value"))]

def Domain.toJson (d : Domain) : Json :=
  .record
    [("name", .text d.name),
      ("type", .text d.fieldType.name),
      ("sql_type", .text d.sqlType),
      ("has_sql_type", .bool d.givenSqlType.isSome),
      ("replaced", .bool d.replaced),
      ("size", .ofOption .nat d.size),
      ("scale", .ofOption .nat d.scale),
      ("size_definition", .text d.sizeDefinition),
      ("default", .ofOption DefaultValue.toJson d.default),
      ("description", .textOr d.description)]

def NameMap.toJson (m : NameMap String) : Json :=
  .record (m.entries.map fun (name, value) => (name, .text value))

def VendorOptions.toJson (v : VendorOptions) : Json :=
  .record
    [("type", .text v.dialect), ("parameters", v.parameters.toJson), ("empty", .bool v.isEmpty)]

def Behavior.toJson (b : Behavior) : Json :=
  .record
    [("id", .text b.id),
      ("name", .text b.name),
      ("parameters", b.parameters.toJson),
      ("order", .int b.order),
      ("modified", .bool b.applied),
      ("entity", .textOr b.entity),
      ("allow_multiple", .bool b.repeatable)]

def Behavior.inspect (b : Behavior) : String :=
  let parameters := b.parameters.entries.map fun (name, value) =>
    Text.inspect name ++ ": " ++ Text.inspect value
  let order := (if b.order < 0 then "-" else "") ++ Text.ofNat b.order.natAbs
  let entity := ((b.entity.map fun e => "Some(" ++ Text.inspect e ++ ")")).getD "None"
  Text.concat
    ["Behavior \x7b id: ", Text.inspect b.id, ", name: ", Text.inspect b.name,
      ", parameters: \x7b", Text.joinWith ", " parameters, "\x7d, entity_modification_order: ",
      order, ", entity_modified: ", if b.applied then "true" else "false",
      ", entity: ", entity, " \x7d"]

def RelationRef.toJson (r : RelationRef) : Json := .texts [r.entity, r.relation]

def Inheritance.toJson (i : Inheritance) : Json :=
  .array [.text i.key, .text i.className, .textOr i.ancestor]

def Field.toJson (f : Field) : Json :=
  .record
    [("name", .text f.name),
      ("column", .text f.column),
      ("position", .nat f.position),
      ("entity", .textOr f.entity),
      ("domain", f.domain.toJson),
      ("description", .textOr f.description),
      ("primary_key", .bool f.primaryKey),
      ("auto_increment", .bool f.autoIncrement),
      ("unique", .bool f.unique),
      ("not_null", .bool f.notNull),
      ("implementation_detail", .bool f.implementationDetail),
      ("inheritance", .ofList Inheritance.toJson f.inheritance),
      ("values", .texts f.values),
      ("referrers", .ofList RelationRef.toJson f.referrers),
      ("vendor", .ofList VendorOptions.toJson f.vendor)]

def Field.kindJson (f : Field) : Json :=
  .record
    [("text", .bool f.fieldType.isText),
      ("numeric", .bool f.fieldType.isNumeric),
      ("lob", .bool f.fieldType.isLargeObject),
      ("array", .bool f.fieldType.isArray),
      ("enum", .bool f.fieldType.isEnumerated),
      ("inheritance", .bool f.isInheritance),
      ("size_definition", .text f.domain.sizeDefinition),
      ("sql_type", .text f.domain.sqlType)]

def IndexMember.toJson (m : IndexMember) : Json :=
  .array [.text m.name, .ofOption .nat m.size]

def Index.toJson (i : Index) : Json :=
  .record
    [("name", .text i.name),
      ("auto", .bool i.isAutoNamed),
      ("unique", .bool i.unique),
      ("table", .textOr i.table),
      ("fields", .ofList IndexMember.toJson i.members),
      ("vendor", .ofList VendorOptions.toJson i.vendor)]

def Relation.toJson (r : Relation) : Json :=
  .record
    [("name", .text r.name),
      ("auto", .bool r.isAutoNamed),
      ("field", .text r.fieldName),
      ("entity", .textOr r.entity),
      ("foreign_entity", .text r.foreignEntity),
      ("foreign_table", .text r.foreignTableName),
      ("references", .ofList (fun (a, b) => .texts [a, b]) r.references),
      ("composite", .bool r.isComposite),
      ("on_delete", .text r.onDelete.sql),
      ("on_update", .text r.onUpdate.sql),
      ("skip_sql", .bool r.skipSql)]

end Tablecraft
