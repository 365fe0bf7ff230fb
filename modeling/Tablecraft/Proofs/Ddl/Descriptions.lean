import Tablecraft.Proofs.Ddl.CommentLines
import Tablecraft.Proofs.Ddl.Lockstep
import Tablecraft.Proofs.Finalization.Passes

namespace Tablecraft

open List Edit Text

variable {p : Platform} {db db' n : Database} {e : Entity} {script : Script}

def Entity.undescribed (e : Entity) : Entity := { e with description := none }

def Database.undescribed (db : Database) : Database := { db with entities := db.entities.map Entity.undescribed }

theorem Entity.ensureUnique_undescribed (e : Entity) (names : List String) :
    e.undescribed.ensureUnique names = (e.ensureUnique names).map Entity.undescribed := by
  have hadmit : e.undescribed.admitIndex (.uniqueOfNames names) = e.admitIndex (.uniqueOfNames names) := rfl
  have hunique : e.undescribed.isUniqueOn names = e.isUniqueOn names := rfl
  rw [ensureUnique, ensureUnique, hunique, addUnique, addUnique, hadmit]
  split
  · rfl
  · cases e.admitIndex (.uniqueOfNames names) <;> rfl

namespace Database

theorem entity?_undescribed (db : Database) (name : String) :
    db.undescribed.entity? name = (db.entity? name).map Entity.undescribed :=
  List.find?_map

theorem undescribed_modifyEntity {f g : Entity → Entity} (h : ∀ e : Entity, g e.undescribed = (f e).undescribed)
    (db : Database) (name : String) :
    (db.modifyEntity name f).undescribed = db.undescribed.modifyEntity name g := by
  have hlist (es : List Entity) : (FirstMatch.modify (·.isNamed name) f es).map Entity.undescribed =
      FirstMatch.modify (·.isNamed name) g (es.map Entity.undescribed) := by
    induction es with
    | nil => rfl
    | cons e rest ih =>
        have hnamed : e.undescribed.isNamed name = e.isNamed name := rfl
        rw [FirstMatch.modify, List.map_cons, FirstMatch.modify, hnamed]
        split
        · rw [List.map_cons, h]
        · rw [List.map_cons, ih]
  exact congrArg (fun entities => { db with entities }) (hlist db.entities)

def Blind (edit : Edit Database Unit) : Prop :=
  ∀ db : Database, edit.result db.undescribed = (edit.result db).map undescribed

theorem Blind.pure : Blind (Pure.pure ()) := fun _ => rfl

theorem Blind.bind {a : Edit Database Unit} {b : Unit → Edit Database Unit} (ha : Blind a) (hb : Blind (b ())) :
    Blind (a >>= b) := by
  intro db
  rw [result_bind, result_bind, ha]
  cases a.result db with
  | error fault => rfl
  | ok s => exact hb s

end Database

namespace Platform

open Database

theorem blind_addMissingUnique (target : String × List String) : Blind (addMissingUnique target) := by
  intro db
  rw [addMissingUnique_eq, result_editEntity, result_editEntity, entity?_undescribed]
  cases db.entity? target.1 with
  | none => rfl
  | some e =>
      dsimp only [Option.map_some]
      rw [Entity.ensureUnique_undescribed]
      cases e.ensureUnique target.2 with
      | error fault => rfl
      | ok e' =>
          exact congrArg Except.ok
            (undescribed_modifyEntity (f := fun _ => e') (g := fun _ => e'.undescribed)
              (fun _ => rfl) db target.1).symm

theorem blind_addMissingUniques (targets : List (String × List String)) : Blind (addMissingUniques targets) := by
  induction targets with
  | nil => exact .pure
  | cons target rest ih => exact .bind (blind_addMissingUnique target) ih

theorem missingUnique?_undescribed (db : Database) : missingUnique? db.undescribed = missingUnique? db := by
  funext r
  rw [missingUnique?, missingUnique?, entity?_undescribed]
  cases db.entity? r.foreignEntity <;> rfl

theorem dropUnusedSizes_undescribed (p : Platform) (e : Entity) :
    p.dropUnusedSizes e.undescribed = (p.dropUnusedSizes e).undescribed := by
  unfold dropUnusedSizes
  split <;> rfl

theorem blind_normalizeEntity (p : Platform) (name : String) : Blind (p.normalizeEntity name) := by
  intro db
  rw [result_normalizeEntity, result_normalizeEntity, entity?_undescribed, missingUnique?_undescribed]
  cases db.entity? name with
  | none => rfl
  | some e =>
      dsimp only [Option.map_some, Entity.undescribed]
      rw [blind_addMissingUniques]
      cases (addMissingUniques (e.relations.filterMap (missingUnique? db))).result db with
      | error fault => rfl
      | ok n => exact congrArg Except.ok (undescribed_modifyEntity p.dropUnusedSizes_undescribed n name).symm

theorem blind_normalizeEntities (p : Platform) (names : List String) : Blind (p.normalizeEntities names) := by
  induction names with
  | nil => exact .pure
  | cons name rest ih => exact .bind (p.blind_normalizeEntity name) ih

theorem columnClause_undescribed (p : Platform) (e : Entity) :
    p.columnClause e.undescribed = p.columnClause e := by
  funext f
  have hname : e.undescribed.name = e.name := rfl
  have hmethod : e.undescribed.idMethod = e.idMethod := rfl
  have hparameter : e.undescribed.idMethodParameter = e.idMethodParameter := rfl
  have hkey : inlineKey? e.undescribed = inlineKey? e := rfl
  simp only [columnClause, columnDefinition, mysqlDefinition, genericDefinition, columnSqlType, sizedSqlType,
    bareSqlType, baseSqlType, nativeDomain, columnDefault, checkMysqlDefault, defaultClause, defaultLiteral,
    Literal.numeric, autoIncrementClause, hname, hmethod, hparameter, hkey]

theorem foreignKeyClause_undescribed (p : Platform) (db : Database) (e : Entity) (r : Relation) :
    p.foreignKeyClause db.undescribed e.undescribed r = p.foreignKeyClause db e r := by
  rw [foreignKeyClause, foreignKeyClause, entity?_undescribed]
  cases db.entity? r.foreignEntity <;> rfl

theorem addForeignKeys_undescribed (p : Platform) (db : Database) (e : Entity) :
    p.addForeignKeys db.undescribed e.undescribed = p.addForeignKeys db e := by
  have hkey : p.addForeignKey db.undescribed e.undescribed = p.addForeignKey db e := by
    funext r
    rw [addForeignKey, addForeignKey, foreignKeyClause_undescribed]
    rfl
  rw [addForeignKeys, addForeignKeys, hkey]
  rfl

theorem tableItems_undescribed (p : Platform) (db : Database) (e : Entity) (columns : List ColumnClause) :
    p.tableItems db.undescribed e.undescribed columns = p.tableItems db e columns := by
  have hkeys : p.inlineForeignKeys db.undescribed e.undescribed = p.inlineForeignKeys db e :=
    List.map_congr_left fun r _ => congrArg TableItem.foreignKey (p.foreignKeyClause_undescribed db e r)
  rw [tableItems, tableItems, hkeys]
  rfl

end Platform

def Statement.Bare (s : Statement) : Prop := s.unremarked = s ∧ s.stray? = none

theorem map_unremarked_of_bare (h : ∀ s ∈ script, s.Bare) : script.map Statement.unremarked = script :=
  (List.map_congr_left fun s hs => (h s hs).1).trans (List.map_id _)

theorem filterMap_stray?_of_bare (h : ∀ s ∈ script, s.Bare) : script.filterMap Statement.stray? = [] :=
  List.filterMap_eq_nil_iff.2 fun s hs => (h s hs).2

def Entity.stray (e : Entity) : List String :=
  ((Platform.describedBy e.description).map fun text => strayLines (text ++ " ")).getD []

def Database.createdEntities (db : Database) : List Entity :=
  (db.entitiesForSql.map (·.name)).filterMap db.entity?

namespace Platform

theorem bare_dropEntity (p : Platform) (e : Entity) : ∀ s ∈ p.dropEntity e, s.Bare := by
  intro s hs
  rcases List.mem_cons.1 hs with rfl | hs
  · exact ⟨rfl, rfl⟩
  · obtain ⟨_, _, rfl⟩ := Option.map_eq_some_iff.1 (Option.mem_toList.1 hs)
    exact ⟨rfl, rfl⟩

theorem bare_addIndices (p : Platform) (e : Entity) : ∀ s ∈ p.addIndices e, s.Bare := by
  unfold addIndices
  split
  · simp
  · exact List.forall_mem_map.2 fun _ _ => ⟨rfl, rfl⟩

theorem bare_addForeignKeys (p : Platform) (db : Database) (entities : List Entity) :
    ∀ s ∈ entities.flatMap (p.addForeignKeys db), s.Bare := by
  intro s hs
  obtain ⟨e, -, hs⟩ := List.mem_flatMap.1 hs
  unfold addForeignKeys at hs
  split at hs
  · cases hs
  · obtain ⟨r, -, hs⟩ := List.mem_flatMap.1 hs
    unfold addForeignKey at hs
    split at hs
    · rw [List.mem_singleton.1 hs]
      exact ⟨rfl, rfl⟩
    · cases hs

theorem stray_of_normalizeEntities {names : List String} (h : (p.normalizeEntities names).result db = .ok n)
    (targets : List String) :
    (targets.filterMap n.entity?).map Entity.stray = (targets.filterMap db.entity?).map Entity.stray := by
  have hn := normalized_of_normalizeEntities h
  rw [List.map_filterMap, List.map_filterMap]
  refine List.filterMap_congr fun name _ => ?_
  cases he : db.entity? name with
  | some e =>
      obtain ⟨e', he', hx⟩ := Database.Related.entity? (fun _ _ hx => hx.sameNames) hn he
      rw [he', Option.map_some, Option.map_some, hx.frame]
      rfl
  | none =>
      cases he' : n.entity? name with
      | none => rfl
      | some e' =>
          obtain ⟨e, hfound, -⟩ := Database.Related.entity?' (fun _ _ hx => hx.sameNames) hn he'
          rw [he] at hfound
          cases hfound

section

variable (hp : p.dialect = .generic)

include hp

theorem tableDefinition_undescribed (db : Database) (e : Entity) :
    p.tableDefinition db.undescribed e.undescribed =
      (p.tableDefinition db e).map fun t => { t with remark := none } := by
  have hitems := p.tableItems_undescribed db e
  have hfields : e.undescribed.fields = e.fields := rfl
  have htable : p.tableName e.undescribed = p.tableName e := rfl
  have hremark : describedBy e.undescribed.description = none := rfl
  rw [tableDefinition, tableDefinition, columnClauses, columnClauses, columnClause_undescribed, hfields]
  cases e.fields.mapM (p.columnClause e) with
  | error fault => rfl
  | ok columns =>
      simp only [hitems, htable, hremark, hp, reduceCtorEq, if_false]
      rfl

theorem createEntity_generic (db : Database) (e : Entity) :
    p.createEntity db e = (p.tableDefinition db e).map fun t =>
      .heading e.table :: p.dropEntity e ++ [.createTable t] ++ p.addIndices e := by
  have hsequence : p.ownSequence? e = none := by simp [ownSequence?, hp]
  have hdescribe : p.describe e = [] := by rw [describe, hp]
  rw [createEntity, addEntity, hsequence, hdescribe]
  cases p.tableDefinition db e <;> rfl

theorem createEntity_undescribed (db : Database) (e : Entity) :
    p.createEntity db.undescribed e.undescribed = (p.createEntity db e).map (List.map Statement.unremarked) := by
  rw [createEntity_generic hp, createEntity_generic hp, tableDefinition_undescribed hp]
  cases p.tableDefinition db e with
  | error fault => rfl
  | ok t =>
      apply congrArg Except.ok
      rw [List.map_append, List.map_append, List.map_cons, map_unremarked_of_bare (p.bare_dropEntity e),
        map_unremarked_of_bare (p.bare_addIndices e)]
      rfl

/-- The remark before the table is the description, and nothing else has one. -/
theorem stray_of_createEntity {db : Database} {e : Entity} (h : p.createEntity db e = .ok script) :
    script.filterMap Statement.stray? = [e.stray] := by
  rw [createEntity_generic hp] at h
  obtain ⟨t, ht, rfl⟩ := except_map_eq_ok_iff.1 h
  have hremark : t.remark = describedBy e.description := by
    obtain ⟨columns, -, ht⟩ := except_bind_eq_ok_iff.1 ht
    rw [← Except.ok.inj ht]
    simp [hp]
  rw [List.filterMap_append, filterMap_stray?_of_bare (p.bare_addIndices e), List.append_nil, List.cons_append,
    List.filterMap_cons_none rfl, List.filterMap_append, filterMap_stray?_of_bare (p.bare_dropEntity e),
    List.nil_append]
  exact congrArg (fun remark => [(remark.map fun text => strayLines (text ++ " ")).getD []]) hremark

theorem opening_eq_nil : p.opening = [] := by
  rw [opening, hp]

theorem closing_eq_nil : p.closing = [] := by
  rw [closing, hp]

theorem createNormalized_undescribed (n : Database) (names : List String) :
    p.createNormalized n.undescribed names = (p.createNormalized n names).map
      (List.map Statement.unremarked) := by
  have hentities : names.filterMap n.undescribed.entity? =
      (names.filterMap n.entity?).map Entity.undescribed := by
    rw [List.map_filterMap]
    exact List.filterMap_congr fun name _ => Database.entity?_undescribed n name
  have htables (es : List Entity) : (es.map Entity.undescribed).mapM (p.createEntity n.undescribed) =
      (es.mapM (p.createEntity n)).map (List.map (List.map Statement.unremarked)) := by
    rw [← Edit.mapM_map]
    refine mapM_eq_of_forall₂ (R := fun x e => x = e.undescribed) ?_ fun x e hx => ?_
    · exact List.forall₂_map_left_iff.2 (List.forall₂_same.2 fun _ _ => rfl)
    · rw [hx, createEntity_undescribed hp]
  have hkeys (es : List Entity) : (es.map Entity.undescribed).flatMap (p.addForeignKeys n.undescribed) =
      es.flatMap (p.addForeignKeys n) := by
    rw [List.flatMap_map]
    exact List.flatMap_congr fun e _ => p.addForeignKeys_undescribed n e
  rw [createNormalized, createNormalized, hentities, htables, hkeys, opening_eq_nil hp, closing_eq_nil hp]
  cases (names.filterMap n.entity?).mapM (p.createEntity n) with
  | error fault => rfl
  | ok tables =>
      apply congrArg Except.ok
      rw [List.append_nil, List.append_nil, List.nil_append, List.nil_append, List.map_append,
        map_unremarked_of_bare (p.bare_addForeignKeys n _), List.map_flatten]

theorem createDatabase_undescribed (db : Database) :
    p.createDatabase db.undescribed = (p.createDatabase db).map (List.map Statement.unremarked) := by
  have hnames : db.undescribed.entitiesForSql.map (·.name) = db.entitiesForSql.map (·.name) := by
    rw [Database.entitiesForSql, Database.undescribed, List.filter_map, List.map_map]
    rfl
  rw [createDatabase_eq, createDatabase_eq, hnames, createInOrder, createInOrder, blind_normalizeEntities]
  cases (p.normalizeEntities (db.entitiesForSql.map (·.name))).result db with
  | error fault => rfl
  | ok n => exact createNormalized_undescribed hp n _

theorem stray_of_createDatabase (h : p.createDatabase db = .ok script) :
    script.filterMap Statement.stray? = db.createdEntities.map Entity.stray := by
  obtain ⟨n, tables, hn, ht, rfl⟩ := createDatabase_eq_ok h
  rw [Database.createdEntities, ← stray_of_normalizeEntities hn, opening_eq_nil hp, closing_eq_nil hp,
    List.append_nil, List.nil_append, List.filterMap_append, filterMap_stray?_of_bare (p.bare_addForeignKeys n _),
    List.append_nil, List.filterMap_flatten]
  generalize (db.entitiesForSql.map (·.name)).filterMap n.entity? = entities at ht ⊢
  have htables : tables.map (List.filterMap Statement.stray?) = entities.map fun e => [e.stray] :=
    FirstMatch.map_eq_of_forall₂ (mapM_eq_ok_iff.1 ht) fun e created hc => stray_of_createEntity hp hc
  rw [htables, ← List.flatMap_def, ← List.map_eq_flatMap]

/-- Descriptions of entities make no difference to the lines of a creation script outside comments but by the
lines that stray from them. If the same lines stray from each, the scripts show the same, and next to
descriptions from which nothing strays only then. -/
theorem codeLines_creationText (h : db.undescribed = db'.undescribed) :
    SameOutcome (fun text text' =>
        (db.createdEntities.map Entity.stray = db'.createdEntities.map Entity.stray →
          codeLines text = codeLines text') ∧
          ((∀ e ∈ db'.createdEntities, e.stray = []) →
            (codeLines text = codeLines text' ↔ ∀ e ∈ db.createdEntities, e.stray = [])))
      (p.creationText db) (p.creationText db') := by
  have hbare : SameOutcome (fun s t => s.map Statement.unremarked = t.map Statement.unremarked)
      (p.createDatabase db) (p.createDatabase db') := by
    -- Without remarks both scripts are the one of the databases without descriptions.
    apply sameOutcome_of_map_eq
    rw [← createDatabase_undescribed hp, ← createDatabase_undescribed hp, h]
  refine hbare.map fun script script' hs hs' hscripts => ?_
  have hstray := stray_of_createDatabase hp hs
  have hstray' := stray_of_createDatabase hp hs'
  have hquiet_iff (entities : List Entity) :
      (entities.map Entity.stray).flatten = [] ↔ ∀ e ∈ entities, e.stray = [] := by
    rw [List.flatten_eq_nil_iff, List.forall_mem_map]
  refine ⟨fun hsame => ?_, fun hquiet => ?_⟩
  · rw [codeLines_scriptText, codeLines_scriptText, flatMap_code_congr hscripts]
    rw [hstray, hstray', hsame]
  · rw [codeLines_scriptText_eq_iff hscripts, hstray, hquiet_iff]
    rwa [hstray', hquiet_iff]

end

def describedDocument (description : String) : SchemaDocument :=
  let number (name : String) : Document.Field := { name, fieldType := some "INTEGER", primaryKey := true }
  { databases := [
      { name := "library"
        entities := [{ name := "reader", fields := [number "id"] },
          { name := "book", description := some description, fields := [number "id"] }] }] }

theorem exists_scripts_of_decide (p : Platform) (doc doc' : SchemaDocument)
    (P : Database → Database → Script → Script → Prop)
    [∀ db db' script script', Decidable (P db db' script script')]
    (h : (doc.finalized? p).any (fun db => (doc'.finalized? p).any fun db' =>
      (p.createDatabase db).toOption.any fun script => (p.createDatabase db').toOption.any fun script' =>
        decide (P db db' script script')) = true) :
    ∃ db db' script script', doc.finalized? p = some db ∧ doc'.finalized? p = some db' ∧
      p.createDatabase db = .ok script ∧ p.createDatabase db' = .ok script' ∧ P db db' script script' := by
  obtain ⟨db, hd, h⟩ := (Option.any_eq_true _ _).1 h
  obtain ⟨db', hd', h⟩ := (Option.any_eq_true _ _).1 h
  obtain ⟨script, hs, h⟩ := (Option.any_eq_true _ _).1 h
  obtain ⟨script', hs', h⟩ := (Option.any_eq_true _ _).1 h
  exact ⟨db, db', script, script', hd, hd', except_toOption_eq_some_iff.1 hs, except_toOption_eq_some_iff.1 hs',
    of_decide_eq_true h⟩

theorem codeLines_creationText_remarks : ∃ db db' text text',
    (describedDocument "Books\n-- in two rooms\n--").finalized? {} = some db ∧
    (describedDocument "Volumes").finalized? {} = some db' ∧
    Platform.creationText {} db = .ok text ∧ Platform.creationText {} db' = .ok text' ∧
    Platform.dialect {} = .generic ∧ db.undescribed = db'.undescribed ∧
      (∀ e ∈ db'.createdEntities, e.stray = []) ∧
    (codeLines text = codeLines text' ↔ ∀ e ∈ db.createdEntities, e.stray = []) ∧
    ∀ e ∈ db.createdEntities, e.stray = [] := by
  obtain ⟨db, db', script, script', hd, hd', hs, hs', h, hquiet, hstray⟩ := exists_scripts_of_decide {}
    (describedDocument "Books\n-- in two rooms\n--") (describedDocument "Volumes")
    (fun db db' _ _ => db.undescribed = db'.undescribed ∧ (∀ e ∈ db'.createdEntities, e.stray = []) ∧
      ∀ e ∈ db.createdEntities, e.stray = []) (by decide +kernel)
  have ht : Platform.creationText {} db = .ok (scriptText {} script) := by rw [creationText, hs]; rfl
  have ht' : Platform.creationText {} db' = .ok (scriptText {} script') := by rw [creationText, hs']; rfl
  have hcode := codeLines_creationText (p := ({} : Platform)) rfl h
  rw [ht, ht'] at hcode
  exact ⟨db, db', _, _, hd, hd', ht, ht', rfl, h, hquiet, hcode.2 hquiet, hstray⟩

/-- The second line of a description is a statement of the script. -/
theorem exists_statement_from_description : ∃ db db' text text',
    (describedDocument "Books\nDROP TABLE reader;").finalized? {} = some db ∧
    (describedDocument "Books").finalized? {} = some db' ∧
    Platform.creationText {} db = .ok text ∧ Platform.creationText {} db' = .ok text' ∧
    db.undescribed = db'.undescribed ∧ codeLines text ≠ codeLines text' ∧
      "DROP TABLE reader; " ∈ codeLines text := by
  obtain ⟨db, db', script, script', hd, hd', hs, hs', h, hscripts, hquiet, hstray⟩ := exists_scripts_of_decide {}
    (describedDocument "Books\nDROP TABLE reader;") (describedDocument "Books")
    (fun db db' script script' => db.undescribed = db'.undescribed ∧
      script.map Statement.unremarked = script'.map Statement.unremarked ∧
      (script'.filterMap Statement.stray?).flatten = [] ∧
      (script.filterMap Statement.stray?).flatten = ["DROP TABLE reader; "]) (by decide +kernel)
  refine ⟨db, db', _, _, hd, hd', by rw [creationText, hs]; rfl, by rw [creationText, hs']; rfl, h,
    fun hcode => ?_, ?_⟩
  · rw [codeLines_scriptText_eq_iff hscripts hquiet, hstray] at hcode
    cases hcode
  · apply mem_codeLines_of_stray
    rw [hstray]
    exact List.mem_singleton_self _

end Platform

end Tablecraft
