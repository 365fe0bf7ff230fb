import Tablecraft.Inspection.Parts
import Tablecraft.Model.Schema

namespace Tablecraft

namespace Entity

def toJson (e : Entity) : Json :=
  .record
    [("name", .text e.name),
      ("full_name", .text e.fullName),
      ("table", .text e.table),
      ("full_table", .text e.fullTable),
      ("namespace", .textOr e.space),
      ("schema", .textOr e.schema),
      ("description", .textOr e.description),
      ("database", .textOr e.database),
      ("id_method", .text e.idMethod.name),
      ("explicit_id_method", .bool e.givenIdMethod.isSome),
      ("id_method_parameter", .textOr e.idMethodParameter),
      ("sequence", .text e.sequenceName),
      ("pk_name", .text e.primaryKeyName),
      ("pk", .texts e.primaryKeyNames),
      ("composite_pk", .bool e.hasCompositePrimaryKey),
      ("auto_increment", .textOr (e.autoIncrementField?.map (·.name))),
      ("auto_increment_pk", .bool e.hasAutoIncrementPrimaryKey),
      ("inheritance_field", .textOr (e.inheritanceField?.map (·.name))),
      ("heavy_indexing", .ofOption .bool e.heavyIndexing),
      ("skip_sql", .bool e.skipSql),
      ("alias", .textOr e.aliasOf),
      ("reference_only", .bool e.referenceOnly),
      ("cross_ref", .bool e.crossReference),
      ("contains_foreign_pk", .bool e.containsForeignKey),
      ("pg_transaction", .bool e.needsTransaction),
      ("sql_eligible", .bool e.sqlEligible),
      ("name_limit", .nat e.nameLimit),
      ("fields", .ofList Field.toJson e.fields),
      ("indices", .ofList Index.toJson e.indices),
      ("uniques", .ofList Index.toJson e.uniques),
      ("relations", .ofList Relation.toJson e.relations),
      ("referrers", .ofList RelationRef.toJson e.referrers),
      ("behaviors", .ofList Behavior.toJson e.behaviors),
      ("vendor", .ofList VendorOptions.toJson e.vendor)]

def briefJson (e : Entity) : Json :=
  .record
    [("name", .text e.name),
      ("table", .text e.table),
      ("fields", .ofList (fun f => .array [.text f.name, .nat f.position]) e.fields),
      ("indices", .texts (e.indices.map (·.name))),
      ("uniques", .texts (e.uniques.map (·.name))),
      ("relations", .texts (e.relations.map (·.name))),
      ("behaviors", .texts (e.behaviors.map (·.id))),
      ("contains_foreign_pk", .bool e.containsForeignKey),
      ("pg_transaction", .bool e.needsTransaction)]

end Entity

namespace Database

def toJson (db : Database) : Json :=
  .record
    [("name", .text db.name),
      ("schema", .textOr db.schema),
      ("namespace", .textOr db.space),
      ("parent_schema", .textOr db.parent),
      ("platform", .textOr (db.dialect.map Dialect.name)),
      ("default_id_method", .text db.defaultIdMethod.name),
      ("heavy_indexing", .bool db.heavyIndexing),
      ("sequences", .texts db.sequences),
      ("domains", .ofList Domain.toJson db.domains.values),
      ("behaviors", .ofList Behavior.toJson db.behaviors),
      ("vendor", .ofList VendorOptions.toJson db.vendor),
      ("entities", .ofList Entity.toJson db.entities)]

def briefJson (db : Database) : Json := .ofList Entity.briefJson db.entities

end Database

def CrossRelation.toJson (c : CrossRelation) : Json :=
  .record
    [("middle", .text c.middle),
      ("incoming", c.incoming.toJson),
      ("outgoing", .ofList RelationRef.toJson c.outgoing),
      ("composite", .bool c.isComposite)]

namespace Schema

mutual

def toJson : Schema → Json
  | ⟨name, databases, externals⟩ =>
    .record
      [("name", .textOr name),
        ("multiple", .bool (hasMultipleDatabases { name, databases })),
        ("databases", .ofList Database.toJson databases),
        ("external_schemas", .array (toJsons externals))]

def toJsons : List Schema → List Json
  | [] => []
  | s :: rest => toJson s :: toJsons rest

end

end Schema

end Tablecraft
