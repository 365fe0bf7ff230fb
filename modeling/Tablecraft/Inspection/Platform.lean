import Tablecraft.Config
import Tablecraft.Ddl.Creation
import Tablecraft.Json.Basic

namespace Tablecraft

def FieldType.toJson (t : FieldType) : Json :=
  .record
    [("name", .text t.name),
      ("text", .bool t.isText),
      ("numeric", .bool t.isNumeric),
      ("integer", .bool t.isInteger),
      ("lob", .bool t.isLargeObject),
      ("temporal", .bool t.isTemporal),
      ("boolean", .bool t.isBoolean),
      ("array", .bool t.isArray),
      ("pg_transaction", .bool t.needsTransaction)]

def Dialect.toJson (d : Dialect) : Json :=
  .record [("name", .text d.name), ("aliases", .texts d.aliases)]

def Platform.toJson (p : Platform) : Json :=
  .record
    [("name", .text p.name),
      ("kind", .text p.dialect.name),
      ("max", .nat p.maxIdentifierLength),
      ("index_size", .bool p.supportsIndexSize),
      ("schemas", .bool p.supportsSchemas),
      ("token", .text p.autoIncrementToken),
      ("begin", .text (p.scriptText p.opening)),
      ("end", .text (p.scriptText p.closing)),
      ("null", .texts [Platform.nullText true, Platform.nullText false])]

def RenderSettings.toJson (s : RenderSettings) : Json :=
  .record
    [("identifier_quoting", .bool s.quoteIdentifiers),
      ("mysql_table_type", .text s.tableType),
      ("mysql_table_engine_keyword", .text s.engineKeyword)]

def GeneratorConfig.toJson (c : GeneratorConfig) : Json :=
  .record
    [("platform", .text c.platform),
      ("identifier_quoting", .bool c.identifierQuoting),
      ("heavy_indexing", .bool c.heavyIndexing)]

def MysqlConfig.toJson (c : MysqlConfig) : Json :=
  .record [("table_type", .text c.tableType), ("table_engine_keyword", .text c.engineKeyword)]

end Tablecraft
