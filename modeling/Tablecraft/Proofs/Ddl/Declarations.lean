import Tablecraft.Proofs.Ddl.CreationShape
import Tablecraft.Proofs.Diff.Presence

namespace Tablecraft

open List Edit

variable {p : Platform} {db n source target : Database} {e e' old : Entity} {i j k u : Index} {r : Relation}
  {diff : DatabaseDiff} {d : EntityDiff} {script t : Script} {s : Statement}

def TableItem.name? : TableItem → Option String
  | .unique name _ => name
  | .uniqueIndex name _ => some name
  | .index _ name _ => some name
  | .foreignKey clause => some clause.name
  | .column _ | .primaryKey _ => none

def Statement.declares : Statement → List (String × String)
  | .createTable definition => (definition.items.filterMap TableItem.name?).map (definition.table, ·)
  | .createIndex _ name table _ => [(table, name)]
  | .addForeignKey table clause => [(table, clause.name)]
  | _ => []

def Script.Declares (script : Script) (name : String × String) : Prop := ∃ s ∈ script, name ∈ s.declares

instance (script : Script) (name : String × String) : Decidable (script.Declares name) :=
  inferInstanceAs (Decidable (∃ s ∈ script, name ∈ s.declares))

/-- The index or constraint that the statement drops by name. MySQL drops primary keys without one. -/
def Platform.droppedName? (p : Platform) : Statement → Option (String × String)
  | .dropIndex name table => some (table, name)
  | .dropForeignKey table name => some (table, name)
  | .dropPrimaryKey table name => if p.dialect = .mysql then none else some (table, name)
  | _ => none

def Platform.KeepsIndex (p : Platform) (i j : Index) : Prop :=
  j = i ∨ p.supportsIndexSize = false ∧ j = i.resetSizes

theorem Platform.KeepsIndex.trans (h : p.KeepsIndex i j) (h' : p.KeepsIndex j k) : p.KeepsIndex i k := by
  rcases h' with rfl | ⟨hs, rfl⟩
  · exact h
  · rcases h with rfl | ⟨_, rfl⟩
    · exact .inr ⟨hs, rfl⟩
    · exact .inr ⟨hs, Index.resetSizes_resetSizes i⟩

theorem Platform.KeepsIndex.name_eq (h : p.KeepsIndex i j)
    (hn : p.supportsIndexSize = true ∨ i.resetSizes.name = i.name) : j.name = i.name := by
  rcases h with rfl | ⟨hs, rfl⟩
  · rfl
  · rcases hn with hn | hn
    · rw [hs] at hn
      cases hn
    · exact hn

structure Entity.IndicesKept (p : Platform) (e e' : Entity) : Prop where
  normalized : e.Normalized e'
  indices : ∀ i ∈ e.indices, ∃ j ∈ e'.indices, p.KeepsIndex i j
  uniques : ∀ u ∈ e.uniques, ∃ v ∈ e'.uniques, p.KeepsIndex u v

theorem Entity.IndicesKept.refl (e : Entity) : e.IndicesKept p e :=
  ⟨.refl e, fun i hi => ⟨i, hi, .inl rfl⟩, fun u hu => ⟨u, hu, .inl rfl⟩⟩

theorem Entity.IndicesKept.addUnique (h : old.IndicesKept p e) (ha : e.addUnique i = .ok e') :
    old.IndicesKept p e' := by
  obtain ⟨v, _, rfl⟩ := Entity.addUnique_eq_ok ha
  refine ⟨h.normalized.trans { Entity.Normalized.refl e with frame := rfl }, h.indices, fun u hu => ?_⟩
  obtain ⟨w, hw, hk⟩ := h.uniques u hu
  exact ⟨w, List.mem_append_left _ hw, hk⟩

theorem Platform.exists_keepsIndex_of_reset {indices kept : List Index}
    (h : ∀ i ∈ indices, ∃ j ∈ kept, p.KeepsIndex i j) :
    ∀ i ∈ indices, ∃ j ∈ if p.supportsIndexSize then kept else kept.map Index.resetSizes, p.KeepsIndex i j := by
  intro i hi
  obtain ⟨j, hj, hk⟩ := h i hi
  cases hs : p.supportsIndexSize with
  | true => exact ⟨j, hj, hk⟩
  | false => exact ⟨j.resetSizes, List.mem_map_of_mem hj, hk.trans (.inr ⟨hs, rfl⟩)⟩

theorem Entity.IndicesKept.dropUnusedSizes (h : old.IndicesKept p e) :
    old.IndicesKept p (p.dropUnusedSizes e) := by
  have hi := Platform.exists_keepsIndex_of_reset h.indices
  have hu := Platform.exists_keepsIndex_of_reset h.uniques
  refine ⟨h.normalized.trans (p.normalized_dropUnusedSizes e), ?_, ?_⟩ <;> unfold Platform.dropUnusedSizes
  · cases hs : p.supportsIndexSize <;> rwa [hs] at hi
  · cases hs : p.supportsIndexSize <;> rwa [hs] at hu

namespace Platform

theorem indicesKept_of_normalizeEntities {names : List String}
    (h : (p.normalizeEntities names).result db = .ok n) : db.Related (Entity.IndicesKept p) n :=
  related_of_normalizeEntities (fun _ _ _ _ hx ha => hx.addUnique ha) (fun _ _ hx => hx.dropUnusedSizes) .refl h

/-- The table of an entity in the script, from its normalized copy, and its keys after it. -/
theorem exists_createEntity_of_mem (h : p.createDatabase db = .ok script) (he : e ∈ db.tabled) :
    ∃ n e' t, e.IndicesKept p e' ∧ p.createEntity n e' = .ok t ∧
      (∀ s ∈ t, s ∈ script) ∧ ∀ s ∈ p.addForeignKeys n e', s ∈ script := by
  obtain ⟨n, tables, hn, ht, rfl⟩ := createDatabase_eq_ok h
  have hkept : Forall₂ (Entity.IndicesKept p) db.tabled ((db.entitiesForSql.map (·.name)).filterMap n.entity?) :=
    (indicesKept_of_normalizeEntities hn).forall₂_filterMap (fun _ _ hx => hx.normalized.sameNames) _
  obtain ⟨e', he', hx⟩ := FirstMatch.exists_of_mem hkept he
  obtain ⟨t, hm, hc⟩ := FirstMatch.exists_of_mem (mapM_eq_ok_iff.1 ht) he'
  refine ⟨n, e', t, hx, hc, fun s hs => ?_, fun s hs => ?_⟩
  · exact List.mem_append_left _
      (List.mem_append_left _ (List.mem_append_right _ (List.mem_flatten.2 ⟨t, hm, hs⟩)))
  · exact List.mem_append_left _ (List.mem_append_right _ (List.mem_flatMap.2 ⟨e', he', hs⟩))

theorem exists_tableDefinition (h : p.createEntity n e = .ok t) : ∃ definition,
    p.tableDefinition n e = .ok definition ∧ Statement.createTable definition ∈ t ∧
      ∀ s ∈ p.addIndices e, s ∈ t := by
  obtain ⟨created, hc, h⟩ := except_bind_eq_ok_iff.1 h
  obtain ⟨definition, hd, hc⟩ := except_bind_eq_ok_iff.1 hc
  cases h
  cases hc
  refine ⟨definition, hd, ?_, fun s hs => List.mem_append_right _ hs⟩
  exact List.mem_append_left _ (List.mem_append_right _ (List.mem_append_right _ List.mem_cons_self))

theorem declares_of_item (item : TableItem) {name : String} (h : p.createEntity n e = .ok t)
    (hi : ∀ columns, item ∈ p.tableItems n e columns) (hn : item.name? = some name) :
    Script.Declares t (p.tableName e, name) := by
  obtain ⟨definition, hd, hm, _⟩ := exists_tableDefinition h
  obtain ⟨columns, _, hd⟩ := except_bind_eq_ok_iff.1 hd
  cases hd
  exact ⟨_, hm, List.mem_map.2 ⟨name, List.mem_filterMap.2 ⟨item, hi columns, hn⟩, rfl⟩⟩

theorem declares_index (h : p.createEntity n e = .ok t) (hi : i ∈ e.indices) :
    Script.Declares t (p.tableName e, i.name) := by
  by_cases hd : p.dialect = .mysql
  · refine declares_of_item (.index (p.indexKind i) i.name (p.indexColumns e i)) h (fun columns => ?_) rfl
    rw [tableItems, hd]
    exact List.mem_append_left _ (List.mem_append_right _ (List.mem_map.2 ⟨i, hi, rfl⟩))
  · obtain ⟨_, _, _, hm⟩ := exists_tableDefinition h
    refine ⟨p.addIndex e i, hm _ ?_, List.mem_singleton.2 rfl⟩
    unfold addIndices
    split
    · exact absurd ‹_› hd
    · exact List.mem_map.2 ⟨i, hi, rfl⟩

theorem declares_unique (hd : p.dialect = .mysql ∨ p.dialect = .postgres) (h : p.createEntity n e = .ok t)
    (hu : u ∈ e.uniques) : Script.Declares t (p.tableName e, u.name) := by
  rcases hd with hd | hd
  · refine declares_of_item (.uniqueIndex u.name (p.indexColumns e u)) h (fun columns => ?_) rfl
    rw [tableItems, hd]
    exact List.mem_append_left _ (List.mem_append_left _ (List.mem_append_right _ (List.mem_map.2 ⟨u, hu, rfl⟩)))
  · refine declares_of_item (p.uniqueItem e u) h (fun columns => ?_) ?_
    · rw [tableItems, hd]
      exact List.mem_append_right _ (List.mem_map.2 ⟨u, hu, rfl⟩)
    · rw [uniqueItem, hd]
      rfl

theorem declares_foreignKey (h : p.createEntity n e = .ok t) (hr : r ∈ e.relations)
    (hk : p.rendersForeignKey e r = true) :
    Script.Declares (t ++ p.addForeignKeys n e) (p.tableName e, r.name) := by
  obtain ⟨⟨hskip, hsupported⟩, _⟩ : (r.skipSql = false ∧ p.supportsForeignKeys e = true) ∧
      p.dialect ≠ .sqlite := by
    simpa [rendersForeignKey] using hk
  by_cases hd : p.dialect = .mysql
  · obtain ⟨s, hs, hn⟩ := declares_of_item (.foreignKey (p.foreignKeyClause n e r)) h (fun columns => by
      rw [tableItems, hd]
      refine List.mem_append_right _ ?_
      rw [if_pos hsupported]
      exact List.mem_map.2 ⟨r, List.mem_filter.2 ⟨hr, by simp [hskip]⟩, rfl⟩) rfl
    exact ⟨s, List.mem_append_left _ hs, hn⟩
  · refine ⟨.addForeignKey (p.tableName e) (p.foreignKeyClause n e r), List.mem_append_right _ ?_,
      List.mem_singleton.2 rfl⟩
    unfold addForeignKeys
    split
    · exact absurd ‹_› hd
    · refine List.mem_flatMap.2 ⟨r, hr, ?_⟩
      rw [addForeignKey, if_pos hk]
      exact List.mem_singleton.2 rfl

theorem droppedName?_of_changesColumns (h : s.changesColumns = true) : p.droppedName? s = none := by
  cases s <;> first | rfl | cases h

theorem findIndex_eq_ok {name : String} (h : e.findIndex name = .ok i) : i ∈ e.allIndices ∧ i.name = name := by
  unfold Entity.findIndex at h
  split at h
  · rename_i hi
    cases h
    exact ⟨List.mem_of_find?_eq_some hi, by simpa using List.find?_some hi⟩
  · cases h

inductive Drops (p : Platform) (old : Entity) : Statement → Prop
  | foreignKey {r : Relation} (hr : r ∈ old.relations) (hk : p.rendersForeignKey old r = true) :
      Drops p old (.dropForeignKey (p.tableName old) r.name)
  | index {i : Index} (hi : i ∈ old.allIndices) : Drops p old (p.dropIndex old i)
  | primaryKey (hd : p.dialect = .generic ∨ p.dialect = .postgres) : Drops p old (p.dropPrimaryKey old)

theorem drops_of_mem_dropIndices (h : p.dropIndices old d = .ok script) (hs : s ∈ script) : p.Drops old s := by
  obtain ⟨indices, hi, h⟩ := except_bind_eq_ok_iff.1 h
  cases h
  obtain ⟨i, hm, rfl⟩ := List.mem_map.1 hs
  obtain ⟨name, _, hn⟩ := FirstMatch.exists_of_mem' (mapM_eq_ok_iff.1 hi) hm
  exact .index (findIndex_eq_ok hn).1

theorem drops_of_mem_dropConstraints (h : p.dropConstraints old d = .ok script) (hs : s ∈ script) :
    p.Drops old s := by
  obtain ⟨keys, hk, h⟩ := except_bind_eq_ok_iff.1 h
  obtain ⟨indices, hi, h⟩ := except_bind_eq_ok_iff.1 h
  obtain ⟨relations, hr, hk⟩ := except_bind_eq_ok_iff.1 hk
  cases h
  cases hk
  rcases List.mem_append.1 hs with hs | hs
  · obtain ⟨r, hm, hs⟩ := List.mem_flatMap.1 hs
    obtain ⟨name, _, hn⟩ := FirstMatch.exists_of_mem' (mapM_eq_ok_iff.1 hr) hm
    obtain ⟨hk, rfl⟩ := mem_dropForeignKey hs
    exact .foreignKey (List.mem_of_find?_eq_some (relation?_of_findRelation hn)) hk
  · exact drops_of_mem_dropIndices hi hs

theorem droppedName?_of_mem_addConstraints (h : p.addConstraints diff e d = .ok script) (hs : s ∈ script) :
    p.droppedName? s = none := by
  obtain ⟨indices, _, h⟩ := except_bind_eq_ok_iff.1 h
  obtain ⟨relations, _, h⟩ := except_bind_eq_ok_iff.1 h
  cases h
  rcases List.mem_append.1 hs with hs | hs
  · obtain ⟨i, _, rfl⟩ := List.mem_map.1 hs
    rfl
  · obtain ⟨r, _, hs⟩ := List.mem_flatMap.1 hs
    rw [(mem_addForeignKey hs).2]
    rfl

theorem droppedName?_of_mem_addEntity (h : p.addEntity db e = .ok script) (hs : s ∈ script) :
    p.droppedName? s = none := by
  rcases mem_addEntity h hs with ⟨_, _, rfl⟩ | ⟨_, rfl⟩ | ⟨_, rfl⟩ | ⟨_, _, rfl⟩ <;> rfl

theorem droppedName?_of_mem_addIndices (hs : s ∈ p.addIndices e) : p.droppedName? s = none := by
  obtain ⟨i, _, rfl⟩ := mem_addIndices hs
  rfl

section

variable {dropped : String × String} (hs : s ∈ script) (hn : p.droppedName? s = some dropped)

include hs hn

theorem drops_of_mem_segments {drops middle creations : Script} (hdrops : ∀ s ∈ drops, p.Drops old s)
    (hmiddle : ∀ s ∈ middle, s.changesColumns = true ∨ p.droppedName? s = none ∨ p.Drops old s)
    (hcreations : p.addConstraints diff e d = .ok creations) (he : script = drops ++ middle ++ creations) :
    p.Drops old s := by
  rw [he] at hs
  rcases List.mem_append.1 hs with hs | hs
  · rcases List.mem_append.1 hs with hs | hs
    · exact hdrops s hs
    · rcases hmiddle s hs with hc | hnone | hdrops
      · rw [droppedName?_of_changesColumns hc] at hn
        cases hn
      · rw [hnone] at hn
        cases hn
      · exact hdrops
  · rw [droppedName?_of_mem_addConstraints hcreations hs] at hn
    cases hn

theorem drops_of_mem_migrateStepwise (hd : p.dialect = .generic ∨ p.dialect = .postgres)
    (h : p.migrateStepwise diff old e d = .ok script) : p.Drops old s := by
  obtain ⟨drops, middle, creations, hdrops, hmiddle, hcreations, he⟩ := migrateStepwise_segments h
  refine drops_of_mem_segments hs hn (fun s hs => drops_of_mem_dropConstraints hdrops hs)
    (fun s hs => ?_) hcreations he
  rcases hmiddle s hs with hc | rfl | rfl
  · exact .inl hc
  · exact .inr (.inr (.primaryKey hd))
  · exact .inr (.inl rfl)

theorem drops_of_mem_migrateMerged (h : p.migrateMerged diff old e d = .ok script) : p.Drops old s := by
  obtain ⟨drops, middle, creations, hdrops, hmiddle, hcreations, he⟩ := migrateMerged_segments h
  exact drops_of_mem_segments hs hn (fun s hs => drops_of_mem_dropConstraints hdrops hs)
    (fun s hs => .inl (hmiddle s hs)) hcreations he

theorem drops_of_mem_migrateOrRebuild (h : p.migrateOrRebuild diff old e d = .ok script) : p.Drops old s := by
  cases hr : needsRebuild d with
  | false =>
      obtain ⟨drops, middle, creations, hdrops, hmiddle, hcreations, he⟩ := migrateOrRebuild_segments hr h
      exact drops_of_mem_segments hs hn (fun s hs => drops_of_mem_dropIndices hdrops hs)
        (fun s hs => .inl (hmiddle s hs)) hcreations he
  | true =>
      -- a table that is built anew has its constraints in its definition, and nothing is dropped by name
      rw [migrateOrRebuild, if_pos hr] at h
      obtain ⟨created, hc, h⟩ := except_bind_eq_ok_iff.1 h
      rw [← Except.ok.inj h] at hs
      simp only [List.cons_append, List.mem_cons, List.mem_append, List.not_mem_nil, or_false] at hs
      rcases hs with rfl | (hs | hs) | rfl
      · cases hn
      · rw [droppedName?_of_mem_addEntity hc hs] at hn
        cases hn
      · rw [droppedName?_of_mem_addIndices hs] at hn
        cases hn
      · cases hn

theorem exists_drops_of_mem_migrateEntity (hr : diff.renamedEntities = [])
    (h : p.migrateEntity diff d = .ok script) :
    ∃ old, diff.source.entity? d.source = some old ∧ p.Drops old s := by
  obtain ⟨old, ho, h⟩ := except_bind_eq_ok_iff.1 h
  obtain ⟨new, _, h⟩ := except_bind_eq_ok_iff.1 h
  refine ⟨old, entity?_of_renamedSource hr ho, ?_⟩
  cases hd : p.dialect with
  | generic =>
      rw [hd] at h
      exact drops_of_mem_migrateStepwise hs hn (.inl hd) h
  | postgres =>
      rw [hd] at h
      exact drops_of_mem_migrateStepwise hs hn (.inr hd) h
  | mysql =>
      rw [hd] at h
      exact drops_of_mem_migrateMerged hs hn h
  | sqlite =>
      rw [hd] at h
      exact drops_of_mem_migrateOrRebuild hs hn h

theorem exists_drops_of_mem_migrateDatabase (hr : diff.renamedEntities = [])
    (h : p.migrateDatabase diff = .ok script) :
    ∃ d ∈ diff.modifiedEntities, ∃ old, diff.source.entity? d.source = some old ∧ p.Drops old s := by
  obtain ⟨body, hb, hs | ⟨checked, rfl⟩⟩ := mem_migrateDatabase h hs
  swap
  · cases hn
  obtain ⟨changes, tables, rfl, hc, ht⟩ := migrationBody_eq_ok hr hb
  simp only [List.mem_append] at hs
  rcases hs with ((hs | hs) | hs) | hs
  · obtain ⟨e, _, hs⟩ := List.mem_flatMap.1 hs
    rcases mem_dropEntity hs with rfl | ⟨_, rfl⟩ <;> cases hn
  · obtain ⟨c, hm, hs⟩ := List.mem_flatten.1 hs
    obtain ⟨d, hd, hc⟩ := FirstMatch.exists_of_mem' hc hm
    exact ⟨d, hd, exists_drops_of_mem_migrateEntity hs hn hr hc⟩
  · obtain ⟨t, hm, hs⟩ := List.mem_flatten.1 hs
    obtain ⟨e, _, he⟩ := FirstMatch.exists_of_mem' ht hm
    obtain ⟨added, ha, he⟩ := except_bind_eq_ok_iff.1 he
    rw [← Except.ok.inj he] at hs
    rcases List.mem_append.1 hs with hs | hs
    · rw [droppedName?_of_mem_addEntity ha hs] at hn
      cases hn
    · rw [droppedName?_of_mem_addIndices hs] at hn
      cases hn
  · obtain ⟨e, _, hs⟩ := List.mem_flatMap.1 hs
    obtain ⟨r, _, _, rfl⟩ := mem_addForeignKeys hs
    cases hn

end

/-- The name is written down where the entity is created, as that of no unique constraint without one, and
stays as it is when the dialect takes sizes away. -/
structure WritesName (p : Platform) (e : Entity) (name : String) : Prop where
  unique : p.dialect = .generic ∨ p.dialect = .sqlite → ∀ u ∈ e.uniques, u.name ≠ name
  sized : p.supportsIndexSize = false → ∀ i ∈ e.allIndices, i.name = name → i.resetSizes.name = name

/-- What is created without a name: nothing of an entity that is kept out of scripts, and no primary key. -/
inductive Nameless (p : Platform) (old : Entity) : String → Prop
  | hidden {name : String} (h : old.sqlEligible = false) : Nameless p old name
  | primaryKey (hd : p.dialect = .generic ∨ p.dialect = .postgres) : Nameless p old old.primaryKeyName

/-- The table and the name that a statement drops, by what it drops. -/
theorem Drops.cases_droppedName? (h : p.Drops old s) {dropped : String × String}
    (hn : p.droppedName? s = some dropped) :
    (∃ r ∈ old.relations, p.rendersForeignKey old r = true ∧ dropped = (p.tableName old, r.name)) ∨
      (∃ i ∈ old.allIndices, dropped = (p.tableName old, i.name)) ∨
      (p.dialect = .generic ∨ p.dialect = .postgres) ∧ dropped = (p.tableName old, old.primaryKeyName) := by
  cases h with
  | @foreignKey r hr hrenders => exact .inl ⟨r, hr, hrenders, (Option.some.inj hn).symm⟩
  | @index i hi => exact .inr (.inl ⟨i, hi, (Option.some.inj hn).symm⟩)
  | primaryKey hd =>
      have hm : p.dialect ≠ .mysql := by rcases hd with hd | hd <;> rw [hd] <;> decide
      rw [dropPrimaryKey, droppedName?, if_neg hm] at hn
      exact .inr (.inr ⟨hd, (Option.some.inj hn).symm⟩)

theorem exists_declaring {creation : Script} (hc : p.createDatabase source = .ok creation)
    (ho : old ∈ source.tabled) :
    ∃ n e' t, old.IndicesKept p e' ∧ p.createEntity n e' = .ok t ∧
      ∀ name, Script.Declares (t ++ p.addForeignKeys n e') (p.tableName e', name) →
        creation.Declares (p.tableName old, name) := by
  obtain ⟨n, e', t, hk, ht, htables, hkeys⟩ := exists_createEntity_of_mem hc ho
  have htable : p.tableName e' = p.tableName old := hk.normalized.tableName_eq
  refine ⟨n, e', t, hk, ht, fun name h => ?_⟩
  obtain ⟨s, hs, hname⟩ := h
  exact ⟨s, (List.mem_append.1 hs).elim (htables s) (hkeys s), htable ▸ hname⟩

theorem declares_of_writesName {creation t : Script} (hk : old.IndicesKept p e')
    (ht : p.createEntity n e' = .ok t)
    (hdeclares : ∀ name, t.Declares (p.tableName e', name) → creation.Declares (p.tableName old, name))
    (hi : i ∈ old.allIndices) (hw : p.WritesName old i.name) : creation.Declares (p.tableName old, i.name) := by
  have hname : p.supportsIndexSize = true ∨ i.resetSizes.name = i.name := by
    cases hs : p.supportsIndexSize with
    | true => exact .inl rfl
    | false => exact .inr (hw.sized hs i hi rfl)
  rcases List.mem_append.1 hi with hi | hi
  · obtain ⟨j, hj, hij⟩ := hk.indices i hi
    exact hij.name_eq hname ▸ hdeclares _ (declares_index ht hj)
  · have hd : p.dialect = .mysql ∨ p.dialect = .postgres := by
      cases hp : p.dialect with
      | generic => exact absurd rfl (hw.unique (.inl hp) i hi)
      | sqlite => exact absurd rfl (hw.unique (.inr hp) i hi)
      | mysql => exact .inl rfl
      | postgres => exact .inr rfl
    obtain ⟨j, hj, hij⟩ := hk.uniques i hi
    exact hij.name_eq hname ▸ hdeclares _ (declares_unique hd ht hj)

theorem Drops.table_eq (h : p.Drops old s) {dropped : String × String} (hn : p.droppedName? s = some dropped) :
    dropped.1 = p.tableName old := by
  rcases h.cases_droppedName? hn with ⟨_, _, _, rfl⟩ | ⟨_, _, rfl⟩ | ⟨_, rfl⟩ <;> rfl

theorem declares_or_nameless {creation : Script} {dropped : String × String}
    (hc : p.createDatabase source = .ok creation) (ho : old ∈ source.entities)
    (hself : source.entity? old.name = some old) (hs : p.Drops old s) (hn : p.droppedName? s = some dropped)
    (hw : p.WritesName old dropped.2) : creation.Declares dropped ∨ p.Nameless old dropped.2 := by
  by_cases he : old.sqlEligible = true
  · have htabled := Database.mem_tabled (Database.mem_entitiesForSql.2 ⟨ho, he⟩) hself
    obtain ⟨n, e', t, hk, ht, hdeclares⟩ := exists_declaring hc htabled
    rcases hs.cases_droppedName? hn with ⟨r, hr, hrenders, rfl⟩ | ⟨i, hi, rfl⟩ | ⟨hd, rfl⟩
    · refine .inl (hdeclares _ (declares_foreignKey ht ?_ ?_))
      · rw [hk.normalized.frame]
        exact hr
      · rw [hk.normalized.frame]
        exact hrenders
    · refine .inl (declares_of_writesName hk ht (fun name h => hdeclares name ?_) hi hw)
      exact h.imp fun _ h => ⟨List.mem_append_left _ h.1, h.2⟩
    · exact .inr (.primaryKey hd)
  · exact .inr (.hidden (by simpa using he))

/-- Each index and constraint that a migration drops by name is one of an entity that changes. If the entity's
own name leads to it, the creation script of the source declares each name that is written for its table. -/
theorem dropped_of_compare {creation : Script} (hc : p.createDatabase source = .ok creation)
    (h : p.migrateDatabase (.compare source target) = .ok script) :
    ∀ s ∈ script, ∀ dropped ∈ p.droppedName? s,
      ∃ d ∈ (DatabaseDiff.compare source target).modifiedEntities, ∃ old ∈ source.entities,
        source.entity? d.source = some old ∧ dropped.1 = p.tableName old ∧
        (source.entity? old.name = some old → p.WritesName old dropped.2 →
          creation.Declares dropped ∨ p.Nameless old dropped.2) := by
  intro s hs dropped hn
  obtain ⟨d, hd, old, ho, hdrops⟩ := exists_drops_of_mem_migrateDatabase hs hn rfl h
  have hm := Database.mem_of_entity? ho
  exact ⟨d, hd, old, hm, ho, hdrops.table_eq hn, fun hself hw => declares_or_nameless hc hm hself hdrops hn hw⟩

end Platform

def catalogueDocument (hidden indexed : Bool) : SchemaDocument :=
  { databases := [
      { name := "library"
        entities := [
          { name := "shelf"
            skipSql := hidden
            fields := [{ name := "room", fieldType := some "INTEGER", primaryKey := true }]
            indices := if indexed then [{ name := some "by_room", fields := [{ name := "room" }] }] else [] },
          { name := "book"
            fields := [{ name := "number", fieldType := some "INTEGER", primaryKey := indexed },
              { name := "title", fieldType := some "VARCHAR", primaryKey := !indexed },
              { name := "room", fieldType := some "INTEGER" }]
            indices := if indexed then [{ fields := [{ name := "title", size := some 10 }] }] else []
            uniques := if indexed then [{ name := some "one_title", fields := [{ name := "title" }] }] else []
            relations := if indexed then [{ foreignEntity := "shelf", references := [("room", "room")] }]
              else [] }] }] }

instance (p : Platform) (e : Entity) (name : String) : Decidable (p.WritesName e name) :=
  decidable_of_iff (_ ∧ _) ⟨fun h => ⟨h.1, h.2⟩, fun h => ⟨h.unique, h.sized⟩⟩

theorem dropped_of_compare_catalogue : ∃ source target creation script,
    (catalogueDocument false true).finalized? { dialect := .postgres } = some source ∧
    (catalogueDocument false false).finalized? { dialect := .postgres } = some target ∧
    Platform.createDatabase { dialect := .postgres } source = .ok creation ∧
    Platform.migrateDatabase { dialect := .postgres } (.compare source target) = .ok script ∧
    3 ≤ ((script.filterMap (Platform.droppedName? { dialect := .postgres })).filter
      (creation.Declares ·)).length ∧
    .dropIndex "one_title" "book" ∈ script ∧
    ∃ d ∈ (DatabaseDiff.compare source target).modifiedEntities, ∃ old ∈ source.entities,
      source.entity? d.source = some old ∧ "book" = Platform.tableName { dialect := .postgres } old ∧
      source.entity? old.name = some old ∧ Platform.WritesName { dialect := .postgres } old "one_title" ∧
      (creation.Declares ("book", "one_title") ∨ Platform.Nameless { dialect := .postgres } old "one_title") := by
  have hf : ((catalogueDocument false true).finalized? { dialect := .postgres }).any (fun source =>
      ((catalogueDocument false false).finalized? { dialect := .postgres }).any fun target =>
      (Platform.createDatabase { dialect := .postgres } source).toOption.any fun creation =>
      (Platform.migrateDatabase { dialect := .postgres } (.compare source target)).toOption.any fun script =>
        decide (3 ≤ ((script.filterMap (Platform.droppedName? { dialect := .postgres })).filter
          (Script.Declares creation ·)).length) &&
        decide (.dropIndex "one_title" "book" ∈ script) &&
        decide (∀ d ∈ (DatabaseDiff.compare source target).modifiedEntities, ∀ old ∈ source.entity? d.source,
          source.entity? old.name = some old ∧
            Platform.WritesName { dialect := .postgres } old "one_title")) = true := by
    decide +kernel
  obtain ⟨source, hs, hf⟩ := (Option.any_eq_true _ _).1 hf
  obtain ⟨target, ht, hf⟩ := (Option.any_eq_true _ _).1 hf
  obtain ⟨creation, hc, hf⟩ := (Option.any_eq_true _ _).1 hf
  obtain ⟨script, hm, hf⟩ := (Option.any_eq_true _ _).1 hf
  simp only [Bool.and_eq_true, decide_eq_true_eq] at hf
  obtain ⟨⟨hthree, hdrop⟩, hwritten⟩ := hf
  have hc := except_toOption_eq_some_iff.1 hc
  have hm := except_toOption_eq_some_iff.1 hm
  obtain ⟨d, hd, old, ho, hfound, htable, hdeclared⟩ := Platform.dropped_of_compare hc hm _ hdrop _ rfl
  obtain ⟨hself, hw⟩ := hwritten d hd old hfound
  exact ⟨source, target, creation, script, hs, ht, hc, hm, hthree, hdrop, d, hd, old, ho, hfound,
    htable, hself, hw, hdeclared hself hw⟩

/-- The index of a table that was never created, and a primary key that was created without a name. -/
theorem exists_dropped_undeclared : ∃ a b source target creation script,
    LoadedFrom .builtins (catalogueDocument true true) a ∧
      (Database.finalize .builtins {}).result a = .ok source ∧
    LoadedFrom .builtins (catalogueDocument false false) b ∧
      (Database.finalize .builtins {}).result b = .ok target ∧
    Platform.createDatabase {} source = .ok creation ∧
    Platform.migrateDatabase {} (.compare source target) = .ok script ∧
    ∀ dropped ∈ [("shelf", "by_room"), ("book", "book_pk")],
      dropped ∈ script.filterMap (Platform.droppedName? {}) ∧ ¬creation.Declares dropped := by
  have hf : ((catalogueDocument true true).finalized? {}).any (fun source =>
      ((catalogueDocument false false).finalized? {}).any fun target =>
      (Platform.createDatabase {} source).toOption.any fun creation =>
      (Platform.migrateDatabase {} (.compare source target)).toOption.any fun script =>
        decide (∀ dropped ∈ [("shelf", "by_room"), ("book", "book_pk")],
          dropped ∈ script.filterMap (Platform.droppedName? {}) ∧ ¬Script.Declares creation dropped)) = true := by
    decide +kernel
  obtain ⟨source, hs, hf⟩ := (Option.any_eq_true _ _).1 hf
  obtain ⟨target, ht, hf⟩ := (Option.any_eq_true _ _).1 hf
  obtain ⟨creation, hc, hf⟩ := (Option.any_eq_true _ _).1 hf
  obtain ⟨script, hm, hf⟩ := (Option.any_eq_true _ _).1 hf
  obtain ⟨a, hla, hra⟩ := SchemaDocument.loadedFrom_of_finalized? hs
  obtain ⟨b, hlb, hrb⟩ := SchemaDocument.loadedFrom_of_finalized? ht
  exact ⟨a, b, source, target, creation, script, hla, hra, hlb, hrb, except_toOption_eq_some_iff.1 hc,
    except_toOption_eq_some_iff.1 hm, of_decide_eq_true hf⟩

end Tablecraft
