import Tablecraft.Diff.Compare
import Tablecraft.Proofs.Ddl.MigrationShape
import Tablecraft.Proofs.Finalization.Passes

namespace Tablecraft

open Edit

variable {p : Platform} {db source target : Database} {e : Entity} {diff : DatabaseDiff} {script : Script}

def Script.CreatesFirst (script : Script) (table : String) : Prop :=
  script.Pairwise fun s t => table ∈ s.references → ¬t.created? = some table

instance (script : Script) (table : String) : Decidable (script.CreatesFirst table) :=
  inferInstanceAs (Decidable (List.Pairwise _ script))

def Platform.DropsKeyTo (p : Platform) (source : Database) (table : String) (s : Statement) : Prop :=
  ∃ e ∈ source.entities, ∃ r ∈ e.relations, s = .dropForeignKey (p.tableName e) r.name ∧
    (p.foreignKeyClause source e r).foreignTable = table

instance (p : Platform) (source : Database) (table : String) (s : Statement) :
    Decidable (p.DropsKeyTo source table s) :=
  inferInstanceAs (Decidable (∃ e ∈ source.entities, ∃ r ∈ e.relations, _))

def Platform.DropsKeysFirst (p : Platform) (source : Database) (script : Script) (table : String) : Prop :=
  script.Pairwise fun s t => s.dropped? = some table → ¬p.DropsKeyTo source table t

instance (p : Platform) (source : Database) (script : Script) (table : String) :
    Decidable (p.DropsKeysFirst source script table) :=
  inferInstanceAs (Decidable (List.Pairwise _ script))

theorem Platform.DropsKeyTo.dropsKey {source : Database} {table : String} {s : Statement}
    (h : p.DropsKeyTo source table s) : s.dropsKey = true := by
  obtain ⟨_, _, _, _, rfl, _⟩ := h
  rfl

/-- Where elements of one kind stand in all segments but the first and the third, and those of the
other kind in all but the second and the fourth, only the middle segments can be out of order. -/
theorem pairwise_segments_iff {α : Type} {P Q : α → Prop} {A B C D : List α}
    (hA : ∀ s ∈ A, ¬P s) (hB : ∀ s ∈ B, ¬Q s) (hC : ∀ s ∈ C, ¬P s) (hD : ∀ s ∈ D, ¬Q s) :
    (A ++ B ++ C ++ D).Pairwise (fun s t => P s → ¬Q t) ↔ ∀ s ∈ B, ∀ t ∈ C, P s → ¬Q t := by
  have hp {X Y : List α} (h : ∀ s ∈ X, ¬P s) : ∀ s ∈ X, ∀ t ∈ Y, P s → ¬Q t :=
    fun s hs _ _ hps => absurd hps (h s hs)
  have hq {X Y : List α} (h : ∀ t ∈ Y, ¬Q t) : ∀ s ∈ X, ∀ t ∈ Y, P s → ¬Q t :=
    fun _ _ t ht _ => h t ht
  constructor
  · intro h s hs t ht
    rw [List.pairwise_append] at h
    exact (List.pairwise_append.1 h.1).2.2 s (List.mem_append_right A hs) t ht
  · intro h
    have hAB := List.pairwise_append.2
      ⟨List.pairwise_of_forall_mem_list (hp hA), List.pairwise_of_forall_mem_list (hq hB), hp hA⟩
    have hABC := List.pairwise_append.2
      ⟨hAB, List.pairwise_of_forall_mem_list (hp hC), List.forall_mem_append.2 ⟨hp hA, h⟩⟩
    exact List.pairwise_append.2 ⟨hABC, List.pairwise_of_forall_mem_list (hq hD), hq hD⟩

namespace Platform

section

variable {s : Statement}

theorem of_mem_keysDropped (h : s ∈ p.keysDropped diff) :
    s.created? = none ∧ s.dropped? = none ∧ s.references = [] := by
  obtain ⟨d, _, h⟩ := List.mem_flatMap.1 h
  obtain ⟨e, _, h⟩ := List.mem_flatMap.1 h
  obtain ⟨r, _, h⟩ := List.mem_flatMap.1 h
  obtain ⟨_, rfl⟩ := mem_dropForeignKey h
  exact ⟨rfl, rfl, rfl⟩

theorem of_mem_keysAdded (h : s ∈ p.keysAdded diff) :
    s.created? = none ∧ s.dropped? = none ∧ s.dropsKey = false := by
  obtain ⟨d, _, h⟩ := List.mem_flatMap.1 h
  obtain ⟨e, _, h⟩ := List.mem_flatMap.1 h
  obtain ⟨r, _, h⟩ := List.mem_flatMap.1 h
  obtain ⟨_, rfl⟩ := mem_addForeignKey h
  exact ⟨rfl, rfl, rfl⟩

theorem of_mem_dropEntity (h : s ∈ p.dropEntity e) : s.references = [] ∧ s.dropsKey = false := by
  rcases mem_dropEntity h with rfl | ⟨_, rfl⟩ <;> exact ⟨rfl, rfl⟩

theorem of_mem_addForeignKeys (h : s ∈ p.addForeignKeys db e) : s.created? = none ∧ s.dropsKey = false := by
  obtain ⟨r, _, _, rfl⟩ := mem_addForeignKeys h
  exact ⟨rfl, rfl⟩

/-- Definitions without foreign keys, which SQLite and MySQL write within them. -/
theorem references_tableDefinition (hd : p.dialect = .generic ∨ p.dialect = .postgres) {t : TableDefinition}
    (h : p.tableDefinition db e = .ok t) : t.references = [] := by
  obtain ⟨columns, _, h⟩ := except_bind_eq_ok_iff.1 h
  have hitems : p.tableItems db e columns = p.commonItems e columns ++ e.uniques.map (p.uniqueItem e) := by
    rcases hd with hd | hd <;> simp [tableItems, hd]
  rw [← Except.ok.inj h, TableDefinition.references, hitems, List.filterMap_eq_nil_iff]
  intro item hi
  rcases List.mem_append.1 hi with hi | hi
  · rcases List.mem_append.1 hi with hi | hi
    · obtain ⟨clause, _, rfl⟩ := List.mem_map.1 hi
      rfl
    · split at hi
      · cases hi
      · rw [List.mem_singleton.1 hi]
  · obtain ⟨u, _, rfl⟩ := List.mem_map.1 hi
    rcases hd with hd | hd <;> simp [uniqueItem, hd]

theorem of_mem_createAdded (hd : p.dialect = .generic ∨ p.dialect = .postgres) {created : Script}
    (h : p.createAdded db e = .ok created) (hs : s ∈ created) : s.references = [] ∧ s.dropsKey = false := by
  obtain ⟨added, ha, h⟩ := except_bind_eq_ok_iff.1 h
  rw [← Except.ok.inj h] at hs
  rcases List.mem_append.1 hs with hs | hs
  · rcases mem_addEntity ha hs with ⟨t, ht, rfl⟩ | ⟨_, rfl⟩ | ⟨_, rfl⟩ | ⟨_, _, rfl⟩
    · exact ⟨references_tableDefinition hd ht, rfl⟩
    all_goals exact ⟨rfl, rfl⟩
  · obtain ⟨i, _, rfl⟩ := mem_addIndices hs
    exact ⟨rfl, rfl⟩

theorem created?_of_mem_createAdded {created : Script} (h : p.createAdded db e = .ok created) {table : String} :
    (∃ s ∈ created, s.created? = some table) ↔ p.tableName e = table := by
  obtain ⟨added, ha, h⟩ := except_bind_eq_ok_iff.1 h
  rw [← Except.ok.inj h]
  constructor
  · rintro ⟨s, hs, hc⟩
    rcases List.mem_append.1 hs with hs | hs
    · rcases mem_addEntity ha hs with ⟨t, ht, rfl⟩ | ⟨_, rfl⟩ | ⟨_, rfl⟩ | ⟨_, _, rfl⟩
      · obtain ⟨_, _, ht⟩ := except_bind_eq_ok_iff.1 ht
        rw [← Except.ok.inj ht] at hc
        exact Option.some.inj hc
      all_goals cases hc
    · obtain ⟨i, _, rfl⟩ := mem_addIndices hs
      cases hc
  · rintro rfl
    obtain ⟨t, ht, ha⟩ := except_bind_eq_ok_iff.1 ha
    obtain ⟨_, _, ht⟩ := except_bind_eq_ok_iff.1 ht
    exact ⟨.createTable t, by simp [← Except.ok.inj ha], by rw [← Except.ok.inj ht]; rfl⟩

theorem exists_created?_iff {entities : List Entity} {tables : List Script}
    (ht : List.Forall₂ (fun e t => p.createAdded db e = .ok t) entities tables) {table : String} :
    (∃ t ∈ tables.flatten, t.created? = some table) ↔ table ∈ entities.map p.tableName := by
  constructor
  · rintro ⟨t, hmem, hc⟩
    obtain ⟨created, hcr, hmem⟩ := List.mem_flatten.1 hmem
    obtain ⟨e, he, hce⟩ := FirstMatch.exists_of_mem' ht hcr
    exact List.mem_map.2 ⟨e, he, (created?_of_mem_createAdded hce).1 ⟨t, hmem, hc⟩⟩
  · intro h
    obtain ⟨e, he, hn⟩ := List.mem_map.1 h
    obtain ⟨created, hcr, hce⟩ := FirstMatch.exists_of_mem ht he
    obtain ⟨t, hmem, hc⟩ := (created?_of_mem_createAdded hce).2 hn
    exact ⟨t, List.mem_flatten.2 ⟨created, hcr, hmem⟩, hc⟩

theorem exists_dropped?_iff {entities : List Entity} {table : String} :
    (∃ s ∈ entities.flatMap p.dropEntity, s.dropped? = some table) ↔ table ∈ entities.map p.tableName := by
  constructor
  · rintro ⟨s, hs, ht⟩
    obtain ⟨e, he, hs⟩ := List.mem_flatMap.1 hs
    rcases mem_dropEntity hs with rfl | ⟨_, rfl⟩
    · exact List.mem_map.2 ⟨e, he, Option.some.inj ht⟩
    · cases ht
  · intro h
    obtain ⟨e, he, rfl⟩ := List.mem_map.1 h
    exact ⟨.dropTable (p.tableName e), List.mem_flatMap.2 ⟨e, he, List.mem_cons_self ..⟩, rfl⟩

end

structure MigrationParts (p : Platform) (diff : DatabaseDiff) (drops changes tables keys : Script) : Prop where
  of_drops : ∀ s ∈ drops, s.references = [] ∧ s.dropsKey = false
  of_changes : ∀ s ∈ changes, s.created? = none ∧ s.dropped? = none ∧
    (s.references = [] ∨ s ∈ p.keysAdded diff) ∧ (s.dropsKey = false ∨ s ∈ p.keysDropped diff)
  of_tables : ∀ s ∈ tables, s.references = [] ∧ s.dropsKey = false
  of_keys : ∀ s ∈ keys, s.created? = none ∧ s.dropsKey = false
  dropped_iff (table : String) : (∃ s ∈ drops, s.dropped? = some table) ↔ table ∈ p.tablesDropped diff
  created_iff (table : String) : (∃ s ∈ tables, s.created? = some table) ↔ table ∈ p.tablesAdded diff
  of_keysDropped : ∀ s ∈ p.keysDropped diff, s ∈ changes
  of_keysAdded : ∀ s ∈ p.keysAdded diff, s ∈ changes

section

variable (hd : p.dialect = .generic ∨ p.dialect = .postgres) (hr : diff.renamedEntities = [])

include hd hr

/-- Where entities that stay change, keys come and go, and tables do not. -/
theorem of_mem_changes {changes : List Script} {s : Statement}
    (hc : List.Forall₂ (fun d c => p.migrateEntity diff d = .ok c) diff.modifiedEntities changes)
    (h : s ∈ changes.flatten) :
    s.created? = none ∧ s.dropped? = none ∧ (s.references = [] ∨ s ∈ p.keysAdded diff) ∧
      (s.dropsKey = false ∨ s ∈ p.keysDropped diff) := by
  rcases (mem_changes hd hr hc).1 h with hs | hs | hs
  · obtain ⟨hcreated, hdropped, hreferences⟩ := of_mem_keysDropped hs
    exact ⟨hcreated, hdropped, .inl hreferences, .inr hs⟩
  · obtain ⟨hcreated, hdropped, hreferences, hkey⟩ := Statement.of_isLocal hs
    exact ⟨hcreated, hdropped, .inl hreferences, .inl hkey⟩
  · obtain ⟨hcreated, hdropped, hkey⟩ := of_mem_keysAdded hs
    exact ⟨hcreated, hdropped, .inr hs, .inl hkey⟩

theorem exists_migrationParts (h : p.migrateDatabase diff = .ok script) :
    ∃ drops changes tables keys, script = drops ++ changes ++ tables ++ keys ∧
      p.MigrationParts diff drops changes tables keys := by
  obtain ⟨changes, tables, rfl, hc, ht⟩ := migrationBody_eq_ok hr (migrationBody_of_migrateDatabase hd h)
  refine ⟨_, _, _, _, rfl, ?_, ?_, ?_, ?_, ?_, ?_, ?_, ?_⟩
  · intro s hs
    obtain ⟨e, _, hs⟩ := List.mem_flatMap.1 hs
    exact of_mem_dropEntity hs
  · exact fun s hs => of_mem_changes hd hr hc hs
  · intro s hs
    obtain ⟨created, hmem, hs⟩ := List.mem_flatten.1 hs
    obtain ⟨e, _, he⟩ := FirstMatch.exists_of_mem' ht hmem
    exact of_mem_createAdded hd he hs
  · intro s hs
    obtain ⟨e, _, hs⟩ := List.mem_flatMap.1 hs
    exact of_mem_addForeignKeys hs
  · exact fun table => exists_dropped?_iff
  · exact fun table => exists_created?_iff ht
  · exact fun s hs => (mem_changes hd hr hc).2.1 hs
  · exact fun s hs => (mem_changes hd hr hc).2.2 hs

end

section

variable {drops changes tables keys : Script} (hp : p.MigrationParts diff drops changes tables keys)

include hp

/-- The keys of new tables come after all new tables. -/
theorem MigrationParts.mem_keysAdded : (drops ++ changes ++ tables ++ keys).Pairwise fun s t =>
    s.references ≠ [] → t.created? ≠ none → s ∈ p.keysAdded diff := by
  have hchanges : ∀ s ∈ changes, ∀ t ∈ tables, s.references ≠ [] ∧ s ∉ p.keysAdded diff → ¬t.created? ≠ none :=
    fun s hs _ _ h => absurd ((hp.of_changes s hs).2.2.1.resolve_left h.1) h.2
  have hsegments := (pairwise_segments_iff (fun s hs h => h.1 (hp.of_drops s hs).1)
    (fun s hs h => h (hp.of_changes s hs).1) (fun s hs h => h.1 (hp.of_tables s hs).1)
    fun s hs h => h (hp.of_keys s hs).1).2 hchanges
  refine hsegments.imp fun h href hcr => ?_
  by_contra hs
  exact h ⟨href, hs⟩ hcr

/-- The foreign keys of a migration point at tables that exist, unless an entity that stays gets a
key to a table that is new. -/
theorem MigrationParts.createsFirst_iff (table : String) :
    Script.CreatesFirst (drops ++ changes ++ tables ++ keys) table ↔
      (table ∈ p.tablesAdded diff → ∀ s ∈ p.keysAdded diff, table ∉ s.references) := by
  have hdrops : ∀ s ∈ drops, ¬table ∈ s.references := fun s hs => by simp [(hp.of_drops s hs).1]
  have hchanges : ∀ s ∈ changes, ¬s.created? = some table := fun s hs => by simp [(hp.of_changes s hs).1]
  have htables : ∀ s ∈ tables, ¬table ∈ s.references := fun s hs => by simp [(hp.of_tables s hs).1]
  have hkeys : ∀ s ∈ keys, ¬s.created? = some table := fun s hs => by simp [(hp.of_keys s hs).1]
  -- keys come in the second and the last segment, tables in the third
  rw [Script.CreatesFirst, pairwise_segments_iff hdrops hchanges htables hkeys]
  constructor
  · intro hall hmem s hs href
    obtain ⟨t, ht, hcr⟩ := (hp.created_iff table).2 hmem
    exact hall s (hp.of_keysAdded s hs) t ht href hcr
  · intro hall s hs t ht href hcr
    rcases (hp.of_changes s hs).2.2.1 with hnone | hs
    · simp [hnone] at href
    · exact hall ((hp.created_iff table).1 ⟨t, ht, hcr⟩) s hs href

/-- No key outlives the table at which it points, unless an entity that stays drops a key to a table
that goes. -/
theorem MigrationParts.dropsKeysFirst_iff (table : String) :
    p.DropsKeysFirst diff.source (drops ++ changes ++ tables ++ keys) table ↔
      (table ∈ p.tablesDropped diff → ∀ s ∈ p.keysDropped diff, ¬p.DropsKeyTo diff.source table s) := by
  have hkey {s : Statement} (hs : s.dropsKey = false) : ¬p.DropsKeyTo diff.source table s :=
    fun hk => by simp [hk.dropsKey] at hs
  have hdrops : ∀ s ∈ drops, ¬p.DropsKeyTo diff.source table s := fun s hs => hkey (hp.of_drops s hs).2
  have hchanges : ∀ s ∈ changes, ¬s.dropped? = some table := fun s hs => by simp [(hp.of_changes s hs).2.1]
  have hrest : ∀ s ∈ tables ++ keys, ¬p.DropsKeyTo diff.source table s :=
    List.forall_mem_append.2 ⟨fun s hs => hkey (hp.of_tables s hs).2, fun s hs => hkey (hp.of_keys s hs).2⟩
  -- with an empty first segment, tables go in the second and keys in the third
  have hsegments := pairwise_segments_iff (List.forall_mem_nil _) hdrops hchanges hrest
  rw [List.nil_append, ← List.append_assoc] at hsegments
  rw [DropsKeysFirst, hsegments]
  constructor
  · intro hall hmem s hs
    obtain ⟨t, ht, hdt⟩ := (hp.dropped_iff table).2 hmem
    exact hall t ht s (hp.of_keysDropped s hs) hdt
  · intro hall t ht s hs hdt
    rcases (hp.of_changes s hs).2.2.2 with hnone | hs
    · exact hkey hnone
    · exact hall ((hp.dropped_iff table).1 ⟨t, ht, hdt⟩) s hs

end

/-- In the script that carries one database over to another, a table can only be out of order with
the foreign keys of the entities that both databases have. -/
theorem compare_order (hd : p.dialect = .generic ∨ p.dialect = .postgres)
    (h : p.migrateDatabase (.compare source target) = .ok script) :
    (script.Pairwise fun s t =>
      s.references ≠ [] → t.created? ≠ none → s ∈ p.keysAdded (.compare source target)) ∧
    ∀ table,
      (script.CreatesFirst table ↔ (table ∈ p.tablesAdded (.compare source target) →
        ∀ s ∈ p.keysAdded (.compare source target), table ∉ s.references)) ∧
      (p.DropsKeysFirst source script table ↔ (table ∈ p.tablesDropped (.compare source target) →
        ∀ s ∈ p.keysDropped (.compare source target), ¬p.DropsKeyTo source table s)) := by
  obtain ⟨drops, changes, tables, keys, rfl, hp⟩ := exists_migrationParts hd rfl h
  exact ⟨hp.mem_keysAdded, fun table => ⟨hp.createsFirst_iff table, hp.dropsKeysFirst_iff table⟩⟩

end Platform

def booksDocument (people : String) : SchemaDocument :=
  { databases := [
      { name := "library"
        entities := [
          { name := people, fields := [{ name := "id", fieldType := some "INTEGER", primaryKey := true }] },
          { name := "book"
            fields := [{ name := "person", fieldType := some "INTEGER" }]
            relations := [{ foreignEntity := people, references := [("person", "id")] }] }] }] }

theorem compare_order_books : ∃ source target script,
    (booksDocument "author").finalized? { dialect := .postgres } = some source ∧
    (booksDocument "editor").finalized? { dialect := .postgres } = some target ∧
    Platform.migrateDatabase { dialect := .postgres } (.compare source target) = .ok script ∧
    (script.Pairwise fun s t => s.references ≠ [] → t.created? ≠ none →
      s ∈ Platform.keysAdded { dialect := .postgres } (.compare source target)) ∧
    ∀ table,
      (script.CreatesFirst table ↔
        (table ∈ Platform.tablesAdded { dialect := .postgres } (.compare source target) →
          ∀ s ∈ Platform.keysAdded { dialect := .postgres } (.compare source target), table ∉ s.references)) ∧
      (Platform.DropsKeysFirst { dialect := .postgres } source script table ↔
        (table ∈ Platform.tablesDropped { dialect := .postgres } (.compare source target) →
          ∀ s ∈ Platform.keysDropped { dialect := .postgres } (.compare source target),
            ¬Platform.DropsKeyTo { dialect := .postgres } source table s)) := by
  have hf : ((booksDocument "author").finalized? { dialect := .postgres }).any (fun source =>
      ((booksDocument "editor").finalized? { dialect := .postgres }).any fun target =>
        (Platform.migrateDatabase { dialect := .postgres } (.compare source target)).toOption.isSome) = true := by
    decide +kernel
  obtain ⟨source, hs, hf⟩ := (Option.any_eq_true _ _).1 hf
  obtain ⟨target, ht, hf⟩ := (Option.any_eq_true _ _).1 hf
  obtain ⟨script, hm⟩ := Option.isSome_iff_exists.1 hf
  have hm := except_toOption_eq_some_iff.1 hm
  exact ⟨source, target, script, hs, ht, hm, Platform.compare_order (.inr rfl) hm⟩

/-- Where the people move to another table, the old one goes while books have a key to it, and they
get their key to the new one before it is there. -/
theorem exists_disorder : ∃ a b source target script,
    LoadedFrom .builtins (booksDocument "author") a ∧ (Database.finalize .builtins {}).result a = .ok source ∧
    LoadedFrom .builtins (booksDocument "editor") b ∧ (Database.finalize .builtins {}).result b = .ok target ∧
    Platform.migrateDatabase {} (.compare source target) = .ok script ∧
    ¬script.CreatesFirst "editor" ∧ ¬Platform.DropsKeysFirst {} source script "author" := by
  have hf : ((booksDocument "author").finalized? {}).any (fun source =>
      ((booksDocument "editor").finalized? {}).any fun target =>
        (Platform.migrateDatabase {} (.compare source target)).toOption.any fun script =>
          decide (¬script.CreatesFirst "editor" ∧
            ¬Platform.DropsKeysFirst {} source script "author")) = true := by
    decide +kernel
  obtain ⟨source, hs, hf⟩ := (Option.any_eq_true _ _).1 hf
  obtain ⟨target, ht, hf⟩ := (Option.any_eq_true _ _).1 hf
  obtain ⟨script, hm, hf⟩ := (Option.any_eq_true _ _).1 hf
  obtain ⟨a, hla, hra⟩ := SchemaDocument.loadedFrom_of_finalized? hs
  obtain ⟨b, hlb, hrb⟩ := SchemaDocument.loadedFrom_of_finalized? ht
  exact ⟨a, b, source, target, script, hla, hra, hlb, hrb, except_toOption_eq_some_iff.1 hm,
    of_decide_eq_true hf⟩

end Tablecraft
