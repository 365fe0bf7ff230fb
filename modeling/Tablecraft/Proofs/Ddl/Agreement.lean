import Tablecraft.Ddl.Migration
import Tablecraft.Diff.Compare
import Tablecraft.Proofs.Ddl.Normalization
import Tablecraft.Proofs.Ddl.Pieces
import Tablecraft.Proofs.Finalization.Passes

namespace Tablecraft

open Edit

variable {p : Platform} {db d n : Database} {e : Entity} {script : Script}

/-- Comment blocks, and statements that remove what is created again. -/
def Statement.clearsWay : Statement → Bool
  | .heading _ | .dropTable _ | .dropSequence _ => true
  | _ => false

def Script.withoutClearing (script : Script) : Script := script.filter fun s => !s.clearsWay

theorem Script.withoutClearing_append (s t : Script) :
    Script.withoutClearing (s ++ t) = s.withoutClearing ++ t.withoutClearing :=
  List.filter_append ..

theorem Script.withoutClearing_eq_self (h : ∀ s ∈ script, s.clearsWay = false) :
    script.withoutClearing = script :=
  List.filter_eq_self.2 fun s hs => by simp [h s hs]

theorem Script.withoutClearing_eq_nil (h : ∀ s ∈ script, s.clearsWay = true) :
    script.withoutClearing = [] :=
  List.filter_eq_nil_iff.2 fun s hs => by simp [h s hs]

namespace Platform

theorem clearing_dropEntity : ∀ s ∈ p.dropEntity e, s.clearsWay = true := by
  intro s hs
  rcases mem_dropEntity hs with rfl | ⟨_, rfl⟩ <;> rfl

theorem not_clearing_addEntity {created : Script} (h : p.addEntity db e = .ok created) :
    ∀ s ∈ created, s.clearsWay = false := by
  intro s hs
  rcases mem_addEntity h hs with ⟨_, _, rfl⟩ | ⟨_, rfl⟩ | ⟨_, rfl⟩ | ⟨_, _, rfl⟩ <;> rfl

theorem not_clearing_addIndices : ∀ s ∈ p.addIndices e, s.clearsWay = false := by
  intro s hs
  obtain ⟨i, _, rfl⟩ := mem_addIndices hs
  rfl

theorem not_clearing_addForeignKeys : ∀ s ∈ p.addForeignKeys db e, s.clearsWay = false := by
  intro s hs
  obtain ⟨r, _, _, rfl⟩ := mem_addForeignKeys hs
  rfl

theorem createEntity_withoutClearing (p : Platform) (db : Database) (e : Entity) :
    (p.createEntity db e).map Script.withoutClearing = p.createAdded db e := by
  unfold createEntity createAdded
  cases h : p.addEntity db e with
  | error fault => rfl
  | ok created =>
      have hd : Script.withoutClearing (.heading e.table :: p.dropEntity e) = [] :=
        Script.withoutClearing_eq_nil (List.forall_mem_cons.2 ⟨rfl, clearing_dropEntity⟩)
      have hc : Script.withoutClearing (.heading e.table :: p.dropEntity e ++ created ++ p.addIndices e)
          = created ++ p.addIndices e := by
        rw [Script.withoutClearing_append, Script.withoutClearing_append, hd,
          Script.withoutClearing_eq_self (not_clearing_addEntity h),
          Script.withoutClearing_eq_self not_clearing_addIndices, List.nil_append]
      exact congrArg Except.ok hc

theorem createNormalized_withoutClearing (p : Platform) (db : Database) (names : List String) :
    (p.createNormalized db names).map Script.withoutClearing =
      ((names.filterMap db.entity?).mapM (p.createAdded db)).map fun tables =>
        p.opening ++ tables.flatten ++ (names.filterMap db.entity?).flatMap (p.addForeignKeys db) ++
          p.closing := by
  have hm : (names.filterMap db.entity?).mapM (p.createAdded db) =
      ((names.filterMap db.entity?).mapM (p.createEntity db)).map (List.map Script.withoutClearing) := by
    rw [← mapM_map]
    exact congrArg (List.mapM · _) (funext fun e => (p.createEntity_withoutClearing db e).symm)
  rw [hm, createNormalized]
  cases ht : (names.filterMap db.entity?).mapM (p.createEntity db) with
  | error fault => rfl
  | ok tables =>
      have ho : p.opening.withoutClearing = p.opening :=
        Script.withoutClearing_eq_self fun s hs => by rw [mem_opening hs]; rfl
      have hc : p.closing.withoutClearing = p.closing :=
        Script.withoutClearing_eq_self fun s hs => by rw [mem_closing hs]; rfl
      have hk : Script.withoutClearing ((names.filterMap db.entity?).flatMap (p.addForeignKeys db))
          = (names.filterMap db.entity?).flatMap (p.addForeignKeys db) := by
        refine Script.withoutClearing_eq_self fun s hs => ?_
        obtain ⟨e, _, hs⟩ := List.mem_flatMap.1 hs
        exact not_clearing_addForeignKeys s hs
      refine congrArg Except.ok ?_
      rw [Script.withoutClearing_append, Script.withoutClearing_append, Script.withoutClearing_append,
        ho, hc, hk, Script.withoutClearing, List.filter_flatten]
      rfl

theorem compare_empty (name : String) (n : Database) :
    DatabaseDiff.compare { name } n =
      { source := { name }, target := n, addedEntities := n.entitiesForSql.map (·.name) } := by
  have hm : n.entitiesForSql.filterMap (DatabaseDiff.changesOf? { name }) = [] := by
    simp [DatabaseDiff.changesOf?, Database.entity?]
  have ha : DatabaseDiff.unknownTo { name } n = n.entitiesForSql.map (·.name) := by
    simp [DatabaseDiff.unknownTo, Database.hasEntity, Database.entity?]
  rw [DatabaseDiff.compare, hm, ha]
  rfl

theorem mapM_findEntity {side : Side} {names : List String}
    (h : ∀ name ∈ names, n.hasEntity name = true) :
    names.mapM (n.findEntity side) = .ok (names.filterMap n.entity?) := by
  induction names with
  | nil => rfl
  | cons name rest ih =>
      obtain ⟨hn, hr⟩ := List.forall_mem_cons.1 h
      obtain ⟨e, he⟩ := Option.isSome_iff_exists.1 hn
      have hf : n.findEntity side name = .ok e := by rw [Database.findEntity, he]
      rw [List.mapM_cons, hf, ih hr, List.filterMap_cons_some he]
      rfl

theorem hasEntity_of_mem {name : String} (h : name ∈ n.entitiesForSql.map (·.name)) :
    n.hasEntity name = true := by
  obtain ⟨e, he, rfl⟩ := List.mem_map.1 h
  exact List.find?_isSome.2 ⟨e, (List.mem_filter.1 he).1, e.isNamed_name⟩

theorem createAdded_ne_nil {created : Script} (h : p.createAdded db e = .ok created) : created ≠ [] := by
  obtain ⟨added, ha, h⟩ := except_bind_eq_ok_iff.1 h
  obtain ⟨definition, _, ha⟩ := except_bind_eq_ok_iff.1 ha
  obtain rfl := Except.ok.inj ha
  obtain rfl := Except.ok.inj h
  simp

/-- Where entities are only added, the body is their tables and then their foreign keys. -/
theorem migrationBody_of_added {source target : Database} {names : List String}
    (h : ∀ name ∈ names, target.hasEntity name = true) :
    p.migrationBody { source, target, addedEntities := names } =
      ((names.filterMap target.entity?).mapM (p.createAdded target)).map fun tables =>
        tables.flatten ++ (names.filterMap target.entity?).flatMap (p.addForeignKeys target) := by
  have ht : names.mapM (DatabaseDiff.targetNamed { source, target, addedEntities := names }) =
      .ok (names.filterMap target.entity?) := mapM_findEntity h
  simp only [migrationBody, List.mapM_nil, pure_bind, ht]
  generalize names.filterMap target.entity? = entities
  change (entities.mapM (p.createAdded target) >>= _) = _
  cases entities.mapM (p.createAdded target) <;> rfl

theorem migrateDatabase_compare_empty (he : n.entitiesForSql ≠ []) (name : String) :
    p.migrateDatabase (.compare { name } n) =
      (p.createNormalized n (n.entitiesForSql.map (·.name))).map Script.withoutClearing := by
  rw [createNormalized_withoutClearing, compare_empty, migrateDatabase,
    migrationBody_of_added fun _ h => hasEntity_of_mem h]
  cases ht : ((n.entitiesForSql.map (·.name)).filterMap n.entity?).mapM (p.createAdded n) with
  | error fault => rfl
  | ok tables =>
      have hne : tables.flatten ≠ [] := by
        obtain ⟨e, he⟩ := List.exists_mem_of_ne_nil _ he
        have hn : e.name ∈ n.entitiesForSql.map (·.name) := List.mem_map_of_mem he
        obtain ⟨x, hx⟩ := Option.isSome_iff_exists.1 (hasEntity_of_mem hn)
        obtain ⟨t, ht, hc⟩ := FirstMatch.exists_of_mem (mapM_eq_ok_iff.1 ht) (List.mem_filterMap.2 ⟨_, hn, hx⟩)
        intro hf
        exact createAdded_ne_nil hc (List.flatten_eq_nil_iff.1 hf t ht)
      refine congrArg Except.ok ?_
      rw [if_neg (by simp [hne])]
      simp only [List.append_assoc]

/-- A migration from nothing to the normalized copy is the creation script without what clears the
way, and a model in normal form is its own copy. -/
theorem migrate_normalized (hn : (p.normalizeEntities (d.entitiesForSql.map (·.name))).result d = .ok n)
    (he : d.entitiesForSql ≠ []) :
    p.migrateDatabase (.compare { name := d.name } n) =
        (p.createDatabase d).map Script.withoutClearing ∧ (p.Normal d → n = d) := by
  have hx := normalized_of_normalizeEntities hn
  have hnames := hx.eligibleNames_eq
  refine ⟨?_, fun h => ?_⟩
  · have hne : n.entitiesForSql ≠ [] := by
      intro h
      rw [h] at hnames
      exact he (List.map_eq_nil_iff.1 hnames.symm)
    have hc : p.createDatabase d = p.createNormalized n (n.entitiesForSql.map (·.name)) := by
      rw [createDatabase, hn, hnames]
      rfl
    rw [hc, migrateDatabase_compare_empty hne]
  · have hself := normalizeEntities_eq_self h
    rw [result_eq_ok_iff.1 hn] at hself
    cases hself
    rfl

end Platform

theorem migrate_library : ∃ d n, Platform.Normal {} d ∧
    (Platform.normalizeEntities {} (d.entitiesForSql.map (·.name))).result d = .ok n ∧
    d.entitiesForSql ≠ [] ∧ n = d ∧
    Platform.migrateDatabase {} (.compare { name := d.name } n) =
      (Platform.createDatabase {} d).map Script.withoutClearing := by
  have hf : (libraryDocument.finalized? {}).any (fun d =>
      decide (Platform.Normal {} d) && !d.entitiesForSql.isEmpty) = true := by decide +kernel
  obtain ⟨d, _, hc⟩ := (Option.any_eq_true _ _).1 hf
  obtain ⟨hd, he⟩ := Bool.and_eq_true_iff.1 hc
  have hd : Platform.Normal {} d := of_decide_eq_true hd
  have he : d.entitiesForSql ≠ [] := by simpa using he
  have hn := result_eq_ok_iff.2 (Platform.normalizeEntities_eq_self hd)
  obtain ⟨hm, hself⟩ := Platform.migrate_normalized hn he
  exact ⟨d, d, hd, hn, he, hself hd, hm⟩

def looseTargetDocument : SchemaDocument :=
  { databases := [
      { name := "library"
        entities := [
          { name := "author", fields := [{ name := "code", fieldType := some "INTEGER" }] },
          { name := "book"
            fields := [{ name := "author", fieldType := some "INTEGER" }]
            relations := [{ foreignEntity := "author", references := [("author", "code")] }] }] }] }

/-- Creation makes the target of a relation unique, and a migration does not. -/
theorem exists_disagreement : ∃ db d migration creation, LoadedFrom .builtins looseTargetDocument db ∧
    (Database.finalize .builtins {}).result db = .ok d ∧ d.entitiesForSql ≠ [] ∧
    Platform.migrateDatabase {} (.compare { name := d.name } d) = .ok migration ∧
    Platform.createDatabase {} d = .ok creation ∧
    Platform.scriptText {} migration ≠ Platform.scriptText {} creation.withoutClearing := by
  have hf : (looseTargetDocument.finalized? {}).any (fun d => !d.entitiesForSql.isEmpty &&
      (Platform.migrateDatabase {} (.compare { name := d.name } d)).toOption.any fun migration =>
        (Platform.createDatabase {} d).toOption.any fun creation =>
          decide (Platform.scriptText {} migration ≠
            Platform.scriptText {} creation.withoutClearing)) = true := by
    decide +kernel
  obtain ⟨d, hf, hc⟩ := (Option.any_eq_true _ _).1 hf
  obtain ⟨he, hc⟩ := Bool.and_eq_true_iff.1 hc
  obtain ⟨migration, hm, hc⟩ := (Option.any_eq_true _ _).1 hc
  obtain ⟨creation, hs, hc⟩ := (Option.any_eq_true _ _).1 hc
  obtain ⟨db, hl, hr⟩ := SchemaDocument.loadedFrom_of_finalized? hf
  exact ⟨db, d, migration, creation, hl, hr, by simpa using he, except_toOption_eq_some_iff.1 hm,
    except_toOption_eq_some_iff.1 hs, of_decide_eq_true hc⟩

end Tablecraft
