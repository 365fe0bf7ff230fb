import Tablecraft.Ddl.Migration
import Tablecraft.Proofs.Ddl.Pieces
import Tablecraft.Proofs.Diff.Retabling

namespace Tablecraft

open Edit

variable {p : Platform} {db : Database} {e old new : Entity} {d : EntityDiff} {diff : DatabaseDiff}
  {script : Script}

def TableDefinition.references (d : TableDefinition) : List String :=
  d.items.filterMap fun
    | .foreignKey clause => some clause.foreignTable
    | _ => none

namespace Statement

def created? : Statement → Option String
  | .createTable definition => some definition.table
  | _ => none

def dropped? : Statement → Option String
  | .dropTable table => some table
  | _ => none

def references : Statement → List String
  | .addForeignKey _ clause => [clause.foreignTable]
  | .createTable definition => definition.references
  | _ => []

def dropsKey : Statement → Bool
  | .dropForeignKey _ _ => true
  | _ => false

def changesColumns : Statement → Bool
  | .renameColumn .. | .modifyColumns .. | .addColumns .. | .addColumn .. | .alterColumn .. | .alterOnce ..
  | .alterTable .. | .dropColumn .. => true
  | _ => false

def isLocal (s : Statement) : Bool :=
  s.created?.isNone && s.dropped?.isNone && s.references.isEmpty && !s.dropsKey

end Statement

theorem Statement.of_isLocal {s : Statement} (h : s.isLocal = true) :
    s.created? = none ∧ s.dropped? = none ∧ s.references = [] ∧ s.dropsKey = false := by
  simpa [isLocal, and_assoc] using h

theorem Statement.isLocal_of_changesColumns {s : Statement} (h : s.changesColumns = true) : s.isLocal = true := by
  cases s <;> first | rfl | cases h

namespace Platform

def keysDroppedBy (p : Platform) (diff : DatabaseDiff) (d : EntityDiff) : Script :=
  (diff.source.entity? d.source).toList.flatMap fun e =>
    (d.droppedRelations.filterMap e.relation?).flatMap (p.dropForeignKey e)

def keysAddedBy (p : Platform) (diff : DatabaseDiff) (d : EntityDiff) : Script :=
  (diff.target.entity? d.target).toList.flatMap fun e =>
    (d.createdRelations.filterMap e.relation?).flatMap (p.addForeignKey diff.target e)

def keysDropped (p : Platform) (diff : DatabaseDiff) : Script :=
  diff.modifiedEntities.flatMap (p.keysDroppedBy diff)

def keysAdded (p : Platform) (diff : DatabaseDiff) : Script :=
  diff.modifiedEntities.flatMap (p.keysAddedBy diff)

def tablesAdded (p : Platform) (diff : DatabaseDiff) : List String :=
  (diff.addedEntities.filterMap diff.target.entity?).map p.tableName

def tablesDropped (p : Platform) (diff : DatabaseDiff) : List String :=
  (diff.removedEntities.filterMap diff.source.entity?).map p.tableName

theorem changesColumns_renameColumn {pair : Field × Field} {s : Statement} (h : p.renameColumn e pair = .ok s) :
    s.changesColumns = true := by
  unfold renameColumn at h
  split at h
  · obtain ⟨clause, _, h⟩ := except_bind_eq_ok_iff.1 h
    cases h
    rfl
  · cases h
    rfl

theorem changesColumns_modifyColumns {pairs : List (Field × Field)} (h : p.modifyColumns e pairs = .ok script) :
    ∀ s ∈ script, s.changesColumns = true := by
  unfold modifyColumns at h
  split at h
  · intro s hs
    obtain ⟨pair, _, hp⟩ := FirstMatch.exists_of_mem' (mapM_eq_ok_iff.1 h) hs
    exact changesColumns_renameColumn hp
  · obtain ⟨scripts, hm, h⟩ := except_bind_eq_ok_iff.1 h
    cases h
    intro s hs
    obtain ⟨changes, hc, hs⟩ := List.mem_flatten.1 hs
    obtain ⟨pair, _, hp⟩ := FirstMatch.exists_of_mem' (mapM_eq_ok_iff.1 hm) hc
    obtain ⟨_, _, hp⟩ := except_bind_eq_ok_iff.1 hp
    cases hp
    obtain ⟨change, _, rfl⟩ := List.mem_map.1 hs
    rfl
  · split at h
    · cases h
      simp
    · obtain ⟨clauses, _, h⟩ := except_bind_eq_ok_iff.1 h
      cases h
      exact List.forall_mem_singleton.2 rfl

theorem changesColumns_addColumns {fields : List Field} (h : p.addColumns e fields = .ok script) :
    ∀ s ∈ script, s.changesColumns = true := by
  unfold addColumns at h
  split at h
  · split at h
    · cases h
      simp
    · obtain ⟨clauses, _, h⟩ := except_bind_eq_ok_iff.1 h
      cases h
      exact List.forall_mem_singleton.2 rfl
  · obtain ⟨clauses, _, h⟩ := except_bind_eq_ok_iff.1 h
    cases h
    intro s hs
    obtain ⟨clause, _, rfl⟩ := List.mem_map.1 hs
    rfl
  · obtain ⟨clauses, _, h⟩ := except_bind_eq_ok_iff.1 h
    cases h
    intro s hs
    obtain ⟨clause, _, rfl⟩ := List.mem_map.1 hs
    rfl

theorem relation?_of_findRelation {name : String} {r : Relation} (h : e.findRelation name = .ok r) :
    e.relation? name = some r := by
  unfold Entity.findRelation at h
  split at h
  · rename_i hr
    rw [hr, Except.ok.inj h]
  · cases h

theorem dropConstraints_eq_ok (h : p.dropConstraints old d = .ok script) :
    ∃ indices, script = (d.droppedRelations.filterMap old.relation?).flatMap (p.dropForeignKey old) ++ indices ∧
      ∀ s ∈ indices, s.isLocal = true := by
  obtain ⟨keys, hk, h⟩ := except_bind_eq_ok_iff.1 h
  obtain ⟨indices, hi, h⟩ := except_bind_eq_ok_iff.1 h
  obtain ⟨relations, hr, hk⟩ := except_bind_eq_ok_iff.1 hk
  obtain ⟨found, _, hi⟩ := except_bind_eq_ok_iff.1 hi
  cases h
  cases hk
  cases hi
  refine ⟨_, by rw [filterMap_of_mapM (fun _ _ => relation?_of_findRelation) hr], fun s hs => ?_⟩
  obtain ⟨i, _, rfl⟩ := List.mem_map.1 hs
  rfl

theorem addConstraints_eq_ok (h : p.addConstraints diff new d = .ok script) :
    ∃ indices, script = indices ++
        (d.createdRelations.filterMap new.relation?).flatMap (p.addForeignKey diff.target new) ∧
      ∀ s ∈ indices, s.isLocal = true := by
  obtain ⟨found, _, h⟩ := except_bind_eq_ok_iff.1 h
  obtain ⟨relations, hr, h⟩ := except_bind_eq_ok_iff.1 h
  cases h
  refine ⟨_, by rw [filterMap_of_mapM (fun _ _ => relation?_of_findRelation) hr], fun s hs => ?_⟩
  obtain ⟨i, _, rfl⟩ := List.mem_map.1 hs
  rfl

theorem eq_of_mem_ite {c : Bool} {s t : Statement} (h : t ∈ if c then [s] else []) : t = s := by
  cases c with
  | false => cases h
  | true => exact List.mem_singleton.1 h

theorem changesColumns_renames {names : List NamePair} {renames : Script}
    (h : (names.mapM fun pair => do
      let f ← old.findField pair.source
      let g ← new.findField pair.target
      p.renameColumn new (f, g)) = .ok renames) : ∀ s ∈ renames, s.changesColumns = true := by
  intro s hs
  obtain ⟨pair, _, hp⟩ := FirstMatch.exists_of_mem' (mapM_eq_ok_iff.1 h) hs
  obtain ⟨_, _, hp⟩ := except_bind_eq_ok_iff.1 hp
  obtain ⟨_, _, hp⟩ := except_bind_eq_ok_iff.1 hp
  exact changesColumns_renameColumn hp

theorem migrateStepwise_segments (h : p.migrateStepwise diff old new d = .ok script) :
    ∃ drops middle creations, p.dropConstraints old d = .ok drops ∧
      (∀ s ∈ middle, s.changesColumns = true ∨ s = p.dropPrimaryKey old ∨ s = p.addPrimaryKey new) ∧
      p.addConstraints diff new d = .ok creations ∧ script = drops ++ middle ++ creations := by
  obtain ⟨drops, hdrops, h⟩ := except_bind_eq_ok_iff.1 h
  obtain ⟨renames, hrenames, h⟩ := except_bind_eq_ok_iff.1 h
  obtain ⟨changed, _, h⟩ := except_bind_eq_ok_iff.1 h
  obtain ⟨changes, hchanges, h⟩ := except_bind_eq_ok_iff.1 h
  obtain ⟨added, _, h⟩ := except_bind_eq_ok_iff.1 h
  obtain ⟨additions, hadditions, h⟩ := except_bind_eq_ok_iff.1 h
  obtain ⟨removed, _, h⟩ := except_bind_eq_ok_iff.1 h
  obtain ⟨creations, hcreations, h⟩ := except_bind_eq_ok_iff.1 h
  refine ⟨drops, (if d.modifiedPrimaryKey && old.hasPrimaryKey then [p.dropPrimaryKey old] else []) ++
    renames ++ changes ++ additions ++ removed.map (p.dropColumn new) ++
    (if d.modifiedPrimaryKey && new.hasPrimaryKey then [p.addPrimaryKey new] else []), creations, hdrops, ?_,
    hcreations, ?_⟩
  · simp only [List.forall_mem_append]
    refine ⟨⟨⟨⟨⟨fun s hs => .inr (.inl (eq_of_mem_ite hs)), fun s hs => .inl ?_⟩, fun s hs => .inl ?_⟩,
      fun s hs => .inl ?_⟩, List.forall_mem_map.2 fun _ _ => .inl rfl⟩, fun s hs =>
        .inr (.inr (eq_of_mem_ite hs))⟩
    · exact changesColumns_renames hrenames s hs
    · exact changesColumns_modifyColumns hchanges s hs
    · exact changesColumns_addColumns hadditions s hs
  · rw [← Except.ok.inj h]
    simp only [List.append_assoc]

theorem migrateMerged_segments (h : p.migrateMerged diff old new d = .ok script) :
    ∃ drops middle creations, p.dropConstraints old d = .ok drops ∧ (∀ s ∈ middle, s.changesColumns = true) ∧
      p.addConstraints diff new d = .ok creations ∧ script = drops ++ middle ++ creations := by
  obtain ⟨drops, hdrops, h⟩ := except_bind_eq_ok_iff.1 h
  obtain ⟨renames, _, h⟩ := except_bind_eq_ok_iff.1 h
  obtain ⟨changed, _, h⟩ := except_bind_eq_ok_iff.1 h
  obtain ⟨changes, _, h⟩ := except_bind_eq_ok_iff.1 h
  obtain ⟨added, _, h⟩ := except_bind_eq_ok_iff.1 h
  obtain ⟨additions, _, h⟩ := except_bind_eq_ok_iff.1 h
  obtain ⟨removed, _, h⟩ := except_bind_eq_ok_iff.1 h
  obtain ⟨creations, hcreations, h⟩ := except_bind_eq_ok_iff.1 h
  have halter (clauses : List AlterClause) :
      ∀ s ∈ if clauses.isEmpty then [] else [Statement.alterTable (p.tableName new) clauses],
          s.changesColumns = true := by
    cases clauses <;> simp [Statement.changesColumns]
  exact ⟨drops, _, creations, hdrops, halter _, hcreations, (Except.ok.inj h).symm⟩

theorem migrateOrRebuild_segments (hn : needsRebuild d = false)
    (h : p.migrateOrRebuild diff old new d = .ok script) :
    ∃ drops middle creations, p.dropIndices old d = .ok drops ∧ (∀ s ∈ middle, s.changesColumns = true) ∧
      p.addConstraints diff new d = .ok creations ∧ script = drops ++ middle ++ creations := by
  rw [migrateOrRebuild, hn] at h
  obtain ⟨drops, hdrops, h⟩ := except_bind_eq_ok_iff.1 h
  obtain ⟨renames, hrenames, h⟩ := except_bind_eq_ok_iff.1 h
  obtain ⟨added, _, h⟩ := except_bind_eq_ok_iff.1 h
  obtain ⟨additions, hadditions, h⟩ := except_bind_eq_ok_iff.1 h
  obtain ⟨creations, hcreations, h⟩ := except_bind_eq_ok_iff.1 h
  refine ⟨drops, renames ++ additions, creations, hdrops, ?_, hcreations, ?_⟩
  · exact List.forall_mem_append.2 ⟨changesColumns_renames hrenames, changesColumns_addColumns hadditions⟩
  · rw [← Except.ok.inj h]
    simp only [List.append_assoc]

variable (hd : p.dialect = .generic ∨ p.dialect = .postgres) (hr : diff.renamedEntities = [])

include hd hr

/-- Keys are dropped first and added last; between them the entity's own parts change. -/
theorem migrateEntity_eq_ok (h : p.migrateEntity diff d = .ok script) :
    ∃ middle, script = p.keysDroppedBy diff d ++ middle ++ p.keysAddedBy diff d ∧
      ∀ s ∈ middle, s.isLocal = true := by
  obtain ⟨old, ho, h⟩ := except_bind_eq_ok_iff.1 h
  obtain ⟨new, hn, h⟩ := except_bind_eq_ok_iff.1 h
  have ho := entity?_of_renamedSource hr ho
  have hn : diff.target.entity? d.target = some new := entity?_of_findEntity hn
  have h : p.migrateStepwise diff old new d = .ok script := by
    rcases hd with hd | hd <;> rw [hd] at h <;> exact h
  obtain ⟨drops, middle, creations, hdrops, hmiddle, hcreations, rfl⟩ := migrateStepwise_segments h
  obtain ⟨before, rfl, hbefore⟩ := dropConstraints_eq_ok hdrops
  obtain ⟨after, rfl, hafter⟩ := addConstraints_eq_ok hcreations
  refine ⟨before ++ middle ++ after, by simp [keysDroppedBy, keysAddedBy, ho, hn], ?_⟩
  refine List.forall_mem_append.2 ⟨List.forall_mem_append.2 ⟨hbefore, fun s hs => ?_⟩, hafter⟩
  rcases hmiddle s hs with hs | rfl | rfl
  · exact Statement.isLocal_of_changesColumns hs
  · rfl
  · rfl

omit hd in
/-- Without renamed entities a script drops tables, changes entities that stay, creates tables and
adds the keys of these. -/
theorem migrationBody_eq_ok {body : Script} (h : p.migrationBody diff = .ok body) :
    ∃ changes tables,
      body = (diff.removedEntities.filterMap diff.source.entity?).flatMap p.dropEntity ++
        changes.flatten ++ tables.flatten ++
        (diff.addedEntities.filterMap diff.target.entity?).flatMap (p.addForeignKeys diff.target) ∧
      List.Forall₂ (fun d c => p.migrateEntity diff d = .ok c) diff.modifiedEntities changes ∧
      List.Forall₂ (fun e t => p.createAdded diff.target e = .ok t)
        (diff.addedEntities.filterMap diff.target.entity?) tables := by
  obtain ⟨removed, hrem, h⟩ := except_bind_eq_ok_iff.1 h
  obtain ⟨renames, hren, h⟩ := except_bind_eq_ok_iff.1 h
  obtain ⟨changes, hc, h⟩ := except_bind_eq_ok_iff.1 h
  obtain ⟨created, hcre, h⟩ := except_bind_eq_ok_iff.1 h
  obtain ⟨tables, ht, h⟩ := except_bind_eq_ok_iff.1 h
  rw [hr, List.mapM_nil] at hren
  obtain rfl := Except.ok.inj hren
  rw [filterMap_of_mapM (fun _ _ => entity?_of_findEntity) hrem,
    filterMap_of_mapM (fun _ _ => entity?_of_findEntity) hcre]
  refine ⟨changes, tables, ?_, mapM_eq_ok_iff.1 hc, mapM_eq_ok_iff.1 ht⟩
  rw [← Except.ok.inj h, List.append_nil]

omit hd hr in
theorem mem_migrateDatabase {s : Statement} (h : p.migrateDatabase diff = .ok script) (hs : s ∈ script) :
    ∃ body, p.migrationBody diff = .ok body ∧ (s ∈ body ∨ ∃ checked, s = .foreignKeyChecks checked) := by
  obtain ⟨body, hb, h⟩ := except_bind_eq_ok_iff.1 h
  refine ⟨body, hb, ?_⟩
  rw [← Except.ok.inj h] at hs
  split at hs
  · cases hs
  · rcases List.mem_append.1 hs with hs | hs
    · exact (List.mem_append.1 hs).symm.imp id fun hs => ⟨false, mem_opening hs⟩
    · exact .inr ⟨true, mem_closing hs⟩

omit hr in
/-- These dialects put nothing around the body. -/
theorem migrationBody_of_migrateDatabase (h : p.migrateDatabase diff = .ok script) :
    p.migrationBody diff = .ok script := by
  obtain ⟨body, hb, h⟩ := except_bind_eq_ok_iff.1 h
  have ho : p.opening = [] := by rcases hd with hd | hd <;> simp [opening, hd]
  have hcl : p.closing = [] := by rcases hd with hd | hd <;> simp [closing, hd]
  rw [ho, hcl, List.nil_append, List.append_nil, ite_eq_right_iff.2] at h
  · rwa [← Except.ok.inj h]
  · intro he
    exact (List.isEmpty_iff.1 he).symm

theorem mem_changes {changes : List Script} {s : Statement}
    (h : List.Forall₂ (fun d c => p.migrateEntity diff d = .ok c) diff.modifiedEntities changes) :
    (s ∈ changes.flatten → s ∈ p.keysDropped diff ∨ s.isLocal = true ∨ s ∈ p.keysAdded diff) ∧
      (s ∈ p.keysDropped diff → s ∈ changes.flatten) ∧ (s ∈ p.keysAdded diff → s ∈ changes.flatten) := by
  refine ⟨fun hs => ?_, fun hs => ?_, fun hs => ?_⟩
  · obtain ⟨c, hc, hs⟩ := List.mem_flatten.1 hs
    obtain ⟨d, hmem, hm⟩ := FirstMatch.exists_of_mem' h hc
    obtain ⟨middle, rfl, hlocal⟩ := migrateEntity_eq_ok hd hr hm
    rcases List.mem_append.1 hs with hs | hs
    · exact (List.mem_append.1 hs).imp (fun hs => List.mem_flatMap.2 ⟨d, hmem, hs⟩) fun hs => .inl (hlocal s hs)
    · exact .inr (.inr (List.mem_flatMap.2 ⟨d, hmem, hs⟩))
  · obtain ⟨d, hmem, hs⟩ := List.mem_flatMap.1 hs
    obtain ⟨c, hc, hm⟩ := FirstMatch.exists_of_mem h hmem
    obtain ⟨middle, rfl, _⟩ := migrateEntity_eq_ok hd hr hm
    exact List.mem_flatten.2 ⟨_, hc, List.mem_append_left _ (List.mem_append_left _ hs)⟩
  · obtain ⟨d, hmem, hs⟩ := List.mem_flatMap.1 hs
    obtain ⟨c, hc, hm⟩ := FirstMatch.exists_of_mem h hmem
    obtain ⟨middle, rfl, _⟩ := migrateEntity_eq_ok hd hr hm
    exact List.mem_flatten.2 ⟨_, hc, List.mem_append_right _ hs⟩

end Platform

end Tablecraft
