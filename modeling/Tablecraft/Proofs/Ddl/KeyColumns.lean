import Tablecraft.Proofs.Finalization.Synthesis
import Tablecraft.Ddl.Column

namespace Tablecraft

variable {registry : Registry} {p : Platform} {db db' : Database} {e foreign : Entity} {f key : Field}

def Field.ListsValues (f : Field) : Prop :=
  f.fieldType.isEnumerated = true ∧ f.values ≠ [] ∧ f.domain.replaced = false

theorem Field.listsValues_iff :
    f.ListsValues ↔ (f.fieldType.isEnumerated && !f.values.isEmpty && !f.domain.replaced) = true := by
  simp [ListsValues, and_assoc]

namespace Platform

variable (hp : p.dialect = .mysql)

include hp

theorem exists_nativeDomain (e : Entity) (f : Field) :
    ∃ native, p.domainFor? f.fieldType = some native ∧ p.nativeDomain e f = .ok native := by
  obtain ⟨native, hn⟩ := Option.isSome_iff_exists.1 (p.domainFor?_mysql_isSome hp f.fieldType)
  exact ⟨native, hn, by rw [nativeDomain, hn]⟩

theorem sizedSqlType_congr (h : f.domain = key.domain) : p.sizedSqlType e f = p.sizedSqlType foreign key := by
  have ht : f.fieldType = key.fieldType := by rw [Field.fieldType, h, Field.fieldType]
  obtain ⟨native, hd, hn⟩ := exists_nativeDomain hp e f
  have hn' : p.nativeDomain foreign key = .ok native := by rw [nativeDomain, ← ht, hd]
  simp only [sizedSqlType, bareSqlType, h, ht, hn, hn']

omit hp in
theorem sizedSqlType_of_bareSqlType {sqlType : String} {isNative : Bool}
    (h : p.bareSqlType e f = .ok (sqlType, isNative)) : ∃ rest, p.sizedSqlType e f = .ok (sqlType ++ rest) := by
  rw [sizedSqlType, h]
  dsimp only [bind, Except.bind]
  split
  · exact ⟨"", by rw [String.append_empty]⟩
  · exact ⟨_, rfl⟩

theorem exists_sizedSqlType (e : Entity) (f : Field) : ∃ text, p.sizedSqlType e f = .ok text := by
  obtain ⟨native, -, hn⟩ := exists_nativeDomain hp e f
  have hbare : ∃ q, p.bareSqlType e f = .ok q := by
    unfold bareSqlType
    cases f.domain.givenSqlType with
    | some sqlType => exact ⟨_, rfl⟩
    | none => exact ⟨_, by rw [hn]; rfl⟩
  obtain ⟨⟨sqlType, isNative⟩, hbare⟩ := hbare
  obtain ⟨rest, hrest⟩ := sizedSqlType_of_bareSqlType hbare
  exact ⟨_, hrest⟩

theorem columnSqlType_of_listsValues (h : f.ListsValues) :
    p.columnSqlType e f = .ok ((if f.fieldType = .set then "SET" else "ENUM") ++ "(" ++
      Text.joinWith ", " (f.values.map p.quote) ++ ")") := by
  simp only [columnSqlType, hp, Field.listsValues_iff.1 h, if_true]

theorem columnSqlType_of_not_listsValues (h : ¬f.ListsValues) : p.columnSqlType e f = p.sizedSqlType e f := by
  simp only [columnSqlType, hp, if_neg (mt Field.listsValues_iff.2 h)]

/-- The dialect's own types for enumerations and sets are numbers. -/
theorem sizedSqlType_of_isEnumerated (ht : f.fieldType.isEnumerated = true) (hn : f.domain.givenSqlType = none) :
    ∃ rest, p.sizedSqlType e f = .ok ((if f.fieldType = .set then "INT" else "TINYINT") ++ rest) := by
  have hnative : p.nativeDomain e f = .ok (Domain.ofSqlType f.fieldType
      (if f.fieldType = .set then "INT" else "TINYINT") none) := by
    unfold nativeDomain domainFor?
    rw [hp]
    cases hf : f.fieldType <;> simp_all [FieldType.isEnumerated, Dialect.ownSqlType]
  have hbare : p.bareSqlType e f = .ok (if f.fieldType = .set then "INT" else "TINYINT", true) := by
    rw [bareSqlType, hn, hnative]
    rfl
  exact sizedSqlType_of_bareSqlType hbare

theorem columnSqlType_ne_sizedSqlType (h : f.ListsValues) (hn : f.domain.givenSqlType = none) :
    p.columnSqlType e f ≠ p.sizedSqlType e f := by
  obtain ⟨rest, hrest⟩ := sizedSqlType_of_isEnumerated hp h.1 hn (e := e)
  rw [columnSqlType_of_listsValues hp h, hrest]
  intro heq
  have hhead := congrArg (fun text => text.toList.head?) (Except.ok.inj heq)
  split at hhead <;> simp at hhead

omit hp in
theorem mysqlAttributes_eq_nil (h : f.vendor = []) : p.mysqlAttributes f = [] := by
  unfold mysqlAttributes
  rw [h]
  rfl

end Platform

/-- What a field that was made for a key shows in MySQL. It has the type of the key's domain, which is not the
type of the key itself if that lists its values, and never a sign. -/
structure Platform.ShowsKey (p : Platform) (e : Entity) (f : Field) (foreign : Entity) (key : Field) : Prop where
  sizedType : ∃ text, p.columnSqlType e f = .ok text ∧ p.sizedSqlType foreign key = .ok text
  sameType : ¬key.ListsValues → p.columnSqlType e f = p.columnSqlType foreign key
  otherType : key.ListsValues → key.domain.givenSqlType = none → p.columnSqlType e f ≠ p.columnSqlType foreign key
  unsigned : "UNSIGNED" ∉ p.mysqlAttributes f

theorem Platform.showsKey_of_domain (hp : p.dialect = .mysql) (hd : f.domain = key.domain)
    (hvalues : f.values = []) (hvendor : f.vendor = []) : p.ShowsKey e f foreign key := by
  have hsized : p.columnSqlType e f = p.sizedSqlType foreign key :=
    (columnSqlType_of_not_listsValues hp fun h => h.2.1 hvalues).trans (sizedSqlType_congr hp hd)
  refine ⟨?_, fun hn => ?_, fun hl hn => ?_, ?_⟩
  · obtain ⟨text, ht⟩ := exists_sizedSqlType hp foreign key
    exact ⟨text, hsized.trans ht, ht⟩
  · rw [hsized, columnSqlType_of_not_listsValues hp hn]
  · rw [hsized]
    exact (columnSqlType_ne_sizedSqlType hp hl hn).symm
  · rw [mysqlAttributes_eq_nil hvendor]
    exact List.not_mem_nil

/-- Finalization finds pairs for the relations that come without any, and each of these pairs leads from a
field that shows the domain of the key. -/
theorem Platform.showsKey_of_finalize (hp : p.dialect = .mysql)
    (h : (Database.finalize registry p).result db = .ok db') :
    ∃ a, Database.applyBehaviors registry db = .ok () a ∧ db'.FoundPairs a p.ShowsKey ∧
      (a.Addressed → ∀ e ∈ db'.entities, ∀ r ∈ e.relations, r.references ≠ []) := by
  obtain ⟨a, u, t, hs⟩ := Database.exists_stages h
  refine ⟨a, hs.applied, hs.foundPairs.imp fun e f foreign key ⟨hd, hvalues, hvendor⟩ => ?_, hs.references_ne_nil⟩
  exact showsKey_of_domain hp hd hvalues hvendor

def Platform.shownColumns (p : Platform) (db : Database) : List (List (Option String × List String)) :=
  db.entities.map fun e => e.fields.map fun f => ((p.columnSqlType e f).toOption, p.mysqlAttributes f)

def Database.shownPairs (db : Database) : List (List (String × String)) :=
  db.entities.flatMap fun e => e.relations.map (·.references)

def caseDocument : SchemaDocument :=
  { databases := [
      { name := "library"
        entities := [
          { name := "shelf"
            fields := [
              { name := "room", fieldType := some "CHAR", size := some 3, primaryKey := true },
              { name := "number", fieldType := some "BIGINT", sqlType := some "BIGINT UNSIGNED",
                primaryKey := true }] },
          { name := "book"
            fields := [{ name := "id", fieldType := some "INTEGER", primaryKey := true }]
            relations := [{ foreignEntity := "shelf" }] }] }] }

theorem Platform.showsKey_of_finalize_case : ∃ db db' a, LoadedFrom .builtins caseDocument db ∧
    (Database.finalize .builtins { dialect := .mysql }).result db = .ok db' ∧
    db'.shownPairs = [[("shelfRoom", "room"), ("shelfNumber", "number")]] ∧
    shownColumns { dialect := .mysql } db' = [[(some "CHAR(3)", []), (some "BIGINT UNSIGNED", [])],
      [(some "INTEGER", []), (some "CHAR(3)", []), (some "BIGINT UNSIGNED", [])]] ∧
    Database.applyBehaviors .builtins db = .ok () a ∧ db'.FoundPairs a (ShowsKey { dialect := .mysql }) ∧
    (a.Addressed → ∀ e ∈ db'.entities, ∀ r ∈ e.relations, r.references ≠ []) := by
  obtain ⟨db, db', hd, h, hpairs, hcolumns⟩ := Database.exists_finalize_of_decide { dialect := .mysql }
    caseDocument.first? (fun _ db' => db'.shownPairs = [[("shelfRoom", "room"), ("shelfNumber", "number")]] ∧
      shownColumns { dialect := .mysql } db' = [[(some "CHAR(3)", []), (some "BIGINT UNSIGNED", [])],
        [(some "INTEGER", []), (some "CHAR(3)", []), (some "BIGINT UNSIGNED", [])]]) (by decide +kernel)
  obtain ⟨a, ha, hfound, hne⟩ := showsKey_of_finalize rfl h
  exact ⟨db, db', a, SchemaDocument.loadedFrom_of_first? hd, h, hpairs, hcolumns, ha, hfound, hne⟩

def genreDocument : SchemaDocument :=
  { databases := [
      { name := "library"
        entities := [
          { name := "genre"
            fields := [
              { name := "kind", fieldType := some "ENUM", values := ["prose", "verse"], primaryKey := true },
              { name := "number", fieldType := some "INTEGER", primaryKey := true,
                vendor := [{ dialect := "mysql", parameters := .ofList [("Unsigned", "true")] }] }] },
          { name := "book"
            fields := [{ name := "id", fieldType := some "INTEGER", primaryKey := true }]
            relations := [{ foreignEntity := "genre" }] }] }] }

/-- The field for the first key shows a number, and the one for the second has a sign. -/
theorem Platform.exists_key_mismatch : ∃ db db', LoadedFrom .builtins genreDocument db ∧
    (Database.finalize .builtins { dialect := .mysql }).result db = .ok db' ∧
    db'.shownPairs = [[("genreKind", "kind"), ("genreNumber", "number")]] ∧
    shownColumns { dialect := .mysql } db' =
      [[(some "ENUM('prose', 'verse')", []), (some "INTEGER", ["UNSIGNED"])],
      [(some "INTEGER", []), (some "TINYINT", []), (some "INTEGER", [])]] := by
  obtain ⟨db, db', hd, h, hshown⟩ := Database.exists_finalize_of_decide { dialect := .mysql } genreDocument.first?
    (fun _ db' => db'.shownPairs = [[("genreKind", "kind"), ("genreNumber", "number")]] ∧
      shownColumns { dialect := .mysql } db' =
        [[(some "ENUM('prose', 'verse')", []), (some "INTEGER", ["UNSIGNED"])],
        [(some "INTEGER", []), (some "TINYINT", []), (some "INTEGER", [])]]) (by decide +kernel)
  exact ⟨db, db', SchemaDocument.loadedFrom_of_first? hd, h, hshown⟩

end Tablecraft
