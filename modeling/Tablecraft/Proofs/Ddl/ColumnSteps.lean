import Tablecraft.Proofs.Ddl.FieldChanges

namespace Tablecraft

open List Edit ColumnStep

variable {p : Platform} {diff : DatabaseDiff} {source target e : Entity} {d : EntityDiff} {script : Script}
  {f : Field}

namespace Platform

variable {pair : Field × Field} {pairs : List (Field × Field)} {fields : List Field}

theorem columnSteps_changeColumn {clause : AlterClause} (h : p.changeColumn e pair = .ok clause) :
    clause.columnSteps = [ofMove (fieldColumns pair)] := by
  obtain ⟨column, hc, h⟩ := except_bind_eq_ok_iff.1 h
  cases h
  rw [AlterClause.columnSteps, name_columnClause hc]
  rfl

theorem columnSteps_renameColumn {s : Statement} (h : p.renameColumn e pair = .ok s) :
    s.columnSteps = [ofMove (fieldColumns pair)] := by
  unfold renameColumn at h
  split at h
  · obtain ⟨clause, hc, h⟩ := except_bind_eq_ok_iff.1 h
    cases h
    exact columnSteps_changeColumn hc
  · cases h
    rfl

def previousColumn? (e : Entity) (f : Field) : Option String :=
  match columnPlace e f with
  | .after column => some column
  | _ => none

theorem columnSteps_insertColumn {clause : AlterClause} (h : p.insertColumn e f = .ok clause) :
    clause.columnSteps = insertion (previousColumn? e f, f.column) := by
  obtain ⟨column, hc, h⟩ := except_bind_eq_ok_iff.1 h
  cases h
  rw [← name_columnClause hc, previousColumn?]
  cases columnPlace e f <;> rfl

/-- A new column goes first or behind the one that stands before it in the entity. -/
theorem columnPlace_eq (hn : e.Numbered) {before after : List Field} (he : e.fields = before ++ f :: after) :
    columnPlace e f = (before.getLast?.map fun g => .after g.column).getD .first := by
  have hp := hn.position_eq he
  unfold columnPlace
  rcases List.eq_nil_or_concat before with rfl | ⟨rest, g, rfl⟩
  · simp [hp]
  · have hg : e.fields[f.position - 2]? = some g := by simp [hp, he]
    have hne : ¬f.position ≤ 1 := by simp [hp]
    rw [if_neg hne, hg]
    simp

theorem exists_of_previousColumn? (hn : e.Numbered) {before after : List Field}
    (he : e.fields = before ++ f :: after) {column : String} (h : previousColumn? e f = some column) :
    ∃ g ∈ before, g.column = column := by
  rw [previousColumn?, columnPlace_eq hn he] at h
  cases hg : before.getLast? with
  | none => simp [hg] at h
  | some g => exact ⟨g, List.mem_of_getLast? hg, by simpa [hg] using h⟩

theorem exists_previous_of_filter (hn : e.Numbered) {q : Field → Bool} {early late : List Field}
    (hq : e.fields.filter q = early ++ f :: late) {column : String} (h : previousColumn? e f = some column) :
    ∃ g ∈ e.fields, g.column = column ∧ (q g = true → g ∈ early) := by
  obtain ⟨front, back, hfields, hearly, hback⟩ := List.filter_eq_append_iff.1 hq
  obtain ⟨skipped, tail, rfl, hskipped, _, _⟩ := List.filter_eq_cons_iff.1 hback
  rw [← List.append_assoc] at hfields
  obtain ⟨g, hg, rfl⟩ := exists_of_previousColumn? hn hfields h
  refine ⟨g, by rw [hfields]; exact List.mem_append_left _ hg, rfl, fun hqg => ?_⟩
  rw [← hearly]
  exact List.mem_filter.2 ⟨(List.mem_append.1 hg).resolve_right fun h => hskipped g h hqg, hqg⟩

/-- The uses of changed columns under their new names. -/
theorem columnSteps_modifyColumns (hd : p.dialect = .generic ∨ p.dialect = .postgres)
    (h : p.modifyColumns e pairs = .ok script) :
    ∀ step ∈ script.flatMap Statement.columnSteps, ∃ pair ∈ pairs, step = .use pair.2.column := by
  intro step hstep
  obtain ⟨s, hs, hstep⟩ := List.mem_flatMap.1 hstep
  unfold modifyColumns at h
  rcases hd with hd | hd <;> rw [hd] at h
  · by_cases he : pairs.isEmpty = true
    · rw [if_pos he] at h
      cases h
      cases hs
    · rw [if_neg he] at h
      obtain ⟨clauses, hc, h⟩ := except_bind_eq_ok_iff.1 h
      cases h
      obtain rfl := List.mem_singleton.1 hs
      obtain ⟨clause, hm, rfl⟩ := List.mem_map.1 hstep
      obtain ⟨g, hg, hcg⟩ := FirstMatch.exists_of_mem' (mapM_eq_ok_iff.1 hc) hm
      obtain ⟨pair, hp, rfl⟩ := List.mem_map.1 hg
      exact ⟨pair, hp, by rw [name_columnClause hcg]⟩
  · obtain ⟨scripts, hm, h⟩ := except_bind_eq_ok_iff.1 h
    cases h
    obtain ⟨changes, hc, hs⟩ := List.mem_flatten.1 hs
    obtain ⟨pair, hp, hpc⟩ := FirstMatch.exists_of_mem' (mapM_eq_ok_iff.1 hm) hc
    obtain ⟨properties, _, hpc⟩ := except_bind_eq_ok_iff.1 hpc
    cases hpc
    obtain ⟨change, _, rfl⟩ := List.mem_map.1 hs
    exact ⟨pair, hp, List.mem_singleton.1 hstep⟩

theorem columnSteps_addColumns (hd : p.dialect ≠ .mysql) (h : p.addColumns e fields = .ok script) :
    script.flatMap Statement.columnSteps = (fields.map Field.column).map .add := by
  unfold addColumns at h
  split at h
  · split at h
    · rename_i he
      cases h
      rw [List.isEmpty_iff.1 he]
      rfl
    · obtain ⟨clauses, hc, h⟩ := except_bind_eq_ok_iff.1 h
      cases h
      rw [← map_name_columnClauses hc]
      simp [Statement.columnSteps, Function.comp_def]
  · exact absurd ‹_› hd
  · obtain ⟨clauses, hc, h⟩ := except_bind_eq_ok_iff.1 h
    cases h
    rw [← map_name_columnClauses hc]
    rw [List.flatMap_map, List.map_map, List.map_eq_flatMap]
    rfl

theorem columnSteps_dropIndices (h : p.dropIndices e d = .ok script) :
    script.flatMap Statement.columnSteps = [] := by
  obtain ⟨indices, _, h⟩ := except_bind_eq_ok_iff.1 h
  cases h
  simp [dropIndex, Statement.columnSteps]

theorem of_mem_dropConstraints {P : Statement → Prop} (hk : ∀ table name, P (.dropForeignKey table name))
    (hi : ∀ name table, P (.dropIndex name table)) (h : p.dropConstraints e d = .ok script) :
    ∀ s ∈ script, P s := by
  obtain ⟨keys, hkeys, h⟩ := except_bind_eq_ok_iff.1 h
  obtain ⟨indices, hindices, h⟩ := except_bind_eq_ok_iff.1 h
  obtain ⟨relations, _, hkeys⟩ := except_bind_eq_ok_iff.1 hkeys
  obtain ⟨found, _, hindices⟩ := except_bind_eq_ok_iff.1 hindices
  cases h
  cases hkeys
  cases hindices
  intro s hs
  rcases List.mem_append.1 hs with hs | hs
  · obtain ⟨r, _, hs⟩ := List.mem_flatMap.1 hs
    rw [(mem_dropForeignKey hs).2]
    exact hk _ _
  · obtain ⟨i, _, rfl⟩ := List.mem_map.1 hs
    exact hi _ _

theorem of_mem_addConstraints {P : Statement → Prop} (hk : ∀ table clause, P (.addForeignKey table clause))
    (hi : ∀ kind name table columns, P (.createIndex kind name table columns))
    (h : p.addConstraints diff e d = .ok script) : ∀ s ∈ script, P s := by
  obtain ⟨indices, _, h⟩ := except_bind_eq_ok_iff.1 h
  obtain ⟨relations, _, h⟩ := except_bind_eq_ok_iff.1 h
  cases h
  intro s hs
  rcases List.mem_append.1 hs with hs | hs
  · obtain ⟨i, _, rfl⟩ := List.mem_map.1 hs
    exact hi _ _ _ _
  · obtain ⟨r, _, hs⟩ := List.mem_flatMap.1 hs
    rw [(mem_addForeignKey hs).2]
    exact hk _ _

theorem columnSteps_dropConstraints (h : p.dropConstraints e d = .ok script) :
    script.flatMap Statement.columnSteps = [] :=
  List.flatMap_eq_nil_iff.2 (of_mem_dropConstraints (fun _ _ => rfl) (fun _ _ => rfl) h)

theorem columnSteps_addConstraints (h : p.addConstraints diff e d = .ok script) :
    script.flatMap Statement.columnSteps = [] :=
  List.flatMap_eq_nil_iff.2 (of_mem_addConstraints (fun _ _ => rfl) (fun _ _ _ _ => rfl) h)

theorem columnSteps_ite {c : Bool} {s : Statement} (h : s.columnSteps = []) :
    (if c then [s] else []).flatMap Statement.columnSteps = [] := by
  cases c <;> simp [h]

theorem exists_resolvePairs {β : Type} {k : Field × Field → Except Fault β} {names : List NamePair} {ys : List β}
    (h : (names.mapM fun pair => do
      let old ← source.findField pair.source
      let new ← target.findField pair.target
      k (old, new)) = .ok ys) :
    ∃ found, resolvePairs source target names = .ok found ∧ Forall₂ (fun pair y => k pair = .ok y) found ys := by
  rw [mapM_eq_ok_iff] at h
  induction h with
  | nil => exact ⟨[], rfl, .nil⟩
  | @cons name y names ys hy _ ih =>
      obtain ⟨found, hf, hk⟩ := ih
      obtain ⟨old, ho, hy⟩ := except_bind_eq_ok_iff.1 hy
      obtain ⟨new, hn, hy⟩ := except_bind_eq_ok_iff.1 hy
      refine ⟨(old, new) :: found, mapM_eq_ok_iff.2 (.cons ?_ (mapM_eq_ok_iff.1 hf)), .cons hy hk⟩
      rw [ho, hn]
      rfl

theorem flatMap_ofMove {β : Type} {k : Field × Field → Except Fault β} {steps : β → List ColumnStep} {ys : List β}
    (h : Forall₂ (fun pair y => k pair = .ok y) pairs ys)
    (hk : ∀ pair y, k pair = .ok y → steps y = [ofMove (fieldColumns pair)]) :
    ys.flatMap steps = (pairs.map fieldColumns).map ofMove := by
  rw [List.flatMap_def, FirstMatch.map_eq_of_forall₂ h hk, ← List.flatMap_def, List.map_map, List.map_eq_flatMap]
  rfl

/-- One statement for each change: columns move, are changed in place, come and go. -/
theorem columnSteps_migrateStepwise (hd : p.dialect = .generic ∨ p.dialect = .postgres)
    (h : p.migrateStepwise diff source target d = .ok script) :
    ∃ (c : FieldChanges source target d) (changes : List ColumnStep),
      (∀ step ∈ changes, ∃ pair ∈ c.changed, step = .use pair.2.column) ∧
      script.flatMap Statement.columnSteps = (c.renamed.map fieldColumns).map ofMove ++ changes ++
        (c.added.map Field.column).map .add ++ (c.removed.map Field.column).map .drop := by
  have hne : p.dialect ≠ .mysql := by rcases hd with hd | hd <;> rw [hd] <;> decide
  obtain ⟨drops, hdrops, h⟩ := except_bind_eq_ok_iff.1 h
  obtain ⟨renames, hrenames, h⟩ := except_bind_eq_ok_iff.1 h
  obtain ⟨changed, hchanged, h⟩ := except_bind_eq_ok_iff.1 h
  obtain ⟨changes, hchanges, h⟩ := except_bind_eq_ok_iff.1 h
  obtain ⟨added, hadded, h⟩ := except_bind_eq_ok_iff.1 h
  obtain ⟨additions, hadditions, h⟩ := except_bind_eq_ok_iff.1 h
  obtain ⟨removed, hremoved, h⟩ := except_bind_eq_ok_iff.1 h
  obtain ⟨creations, hcreations, h⟩ := except_bind_eq_ok_iff.1 h
  obtain ⟨renamed, hrenamed, hmoves⟩ := exists_resolvePairs hrenames
  refine ⟨⟨renamed, changed, added, removed, hrenamed, hchanged, hadded, hremoved⟩,
    changes.flatMap Statement.columnSteps, columnSteps_modifyColumns hd hchanges, ?_⟩
  have hremovals : (removed.map (p.dropColumn target)).flatMap Statement.columnSteps =
      (removed.map Field.column).map .drop := by
    rw [List.flatMap_map, List.map_map, List.map_eq_flatMap]
    rfl
  rw [← Except.ok.inj h]
  simp only [List.flatMap_append, columnSteps_dropConstraints hdrops, columnSteps_addConstraints hcreations,
    flatMap_ofMove hmoves fun _ _ hs => columnSteps_renameColumn hs, columnSteps_addColumns hne hadditions,
    hremovals, columnSteps_ite (s := p.dropPrimaryKey source) rfl,
    columnSteps_ite (s := p.addPrimaryKey target) rfl,
    List.nil_append, List.append_nil]

/-- All changes stand in one statement, between the constraints that go and those that come. -/
theorem migrateMerged_eq_ok (h : p.migrateMerged diff source target d = .ok script) :
    ∃ (c : FieldChanges source target d) (drops creations : Script) (changes additions : List AlterClause),
      p.dropConstraints source d = .ok drops ∧ p.addConstraints diff target d = .ok creations ∧
      Forall₂ (fun pair clause => p.changeColumn target pair = .ok clause) (c.renamed ++ c.changed) changes ∧
      Forall₂ (fun f clause => p.insertColumn target f = .ok clause) c.added additions ∧
      ∃ clauses, clauses = (if d.modifiedPrimaryKey && source.hasPrimaryKey then [.dropPrimaryKey] else []) ++
          changes ++ additions ++ c.removed.map (fun f => .drop f.column) ++
            (if d.modifiedPrimaryKey && target.hasPrimaryKey then [.addPrimaryKey (p.primaryKeyColumns target)]
              else []) ∧
        script = drops ++ (if clauses.isEmpty then [] else [.alterTable (p.tableName target) clauses]) ++
          creations := by
  obtain ⟨drops, hdrops, h⟩ := except_bind_eq_ok_iff.1 h
  obtain ⟨renames, hrenames, h⟩ := except_bind_eq_ok_iff.1 h
  obtain ⟨changed, hchanged, h⟩ := except_bind_eq_ok_iff.1 h
  obtain ⟨changes, hchanges, h⟩ := except_bind_eq_ok_iff.1 h
  obtain ⟨added, hadded, h⟩ := except_bind_eq_ok_iff.1 h
  obtain ⟨additions, hadditions, h⟩ := except_bind_eq_ok_iff.1 h
  obtain ⟨removed, hremoved, h⟩ := except_bind_eq_ok_iff.1 h
  obtain ⟨creations, hcreations, h⟩ := except_bind_eq_ok_iff.1 h
  obtain ⟨renamed, hrenamed, hmoves⟩ := exists_resolvePairs hrenames
  refine ⟨⟨renamed, changed, added, removed, hrenamed, hchanged, hadded, hremoved⟩, drops, creations,
    renames ++ changes, additions, hdrops, hcreations, List.rel_append hmoves (mapM_eq_ok_iff.1 hchanges),
    mapM_eq_ok_iff.1 hadditions, _, rfl, ?_⟩
  rw [← Except.ok.inj h]
  simp only [List.append_assoc]

/-- All changes in one statement: columns move, come each to its place, and go. -/
theorem columnSteps_migrateMerged (h : p.migrateMerged diff source target d = .ok script) :
    ∃ c : FieldChanges source target d, script.flatMap Statement.columnSteps = c.moves.map ofMove ++
      (c.added.map fun f => (previousColumn? target f, f.column)).flatMap insertion ++
        (c.removed.map Field.column).map .drop := by
  obtain ⟨c, drops, creations, changes, additions, hdrops, hcreations, hchanges, hadditions, clauses, hclauses,
    rfl⟩ := migrateMerged_eq_ok h
  refine ⟨c, ?_⟩
  have hinsertions : additions.flatMap AlterClause.columnSteps =
      (c.added.map fun f => (previousColumn? target f, f.column)).flatMap insertion := by
    rw [List.flatMap_def, FirstMatch.map_eq_of_forall₂ hadditions fun _ _ hs => columnSteps_insertColumn hs,
      List.flatMap_map, List.flatMap_def]
  have hremovals : (c.removed.map fun f => AlterClause.drop f.column).flatMap AlterClause.columnSteps =
      (c.removed.map Field.column).map .drop := by
    rw [List.flatMap_map, List.map_map, List.map_eq_flatMap]
    rfl
  have hkeys (b : Bool) {clause : AlterClause} (hc : clause.columnSteps = []) :
      (if b then [clause] else []).flatMap AlterClause.columnSteps = [] := by
    cases b <;> simp [hc]
  have halter (clauses : List AlterClause) :
      (if clauses.isEmpty then [] else [Statement.alterTable (p.tableName target) clauses]).flatMap
        Statement.columnSteps = clauses.flatMap AlterClause.columnSteps := by
    cases clauses <;> simp [Statement.columnSteps]
  rw [List.flatMap_append, List.flatMap_append, columnSteps_dropConstraints hdrops,
    columnSteps_addConstraints hcreations, halter, hclauses]
  simp only [List.flatMap_append, flatMap_ofMove hchanges fun _ _ hs => columnSteps_changeColumn hs, hinsertions,
    hremovals,
    hkeys (d.modifiedPrimaryKey && source.hasPrimaryKey) (rfl : AlterClause.dropPrimaryKey.columnSteps = []),
    hkeys (d.modifiedPrimaryKey && target.hasPrimaryKey)
      (rfl : (AlterClause.addPrimaryKey (p.primaryKeyColumns target)).columnSteps = []),
    List.nil_append, List.append_nil, FieldChanges.moves]

/-- Without a rebuild SQLite only renames and adds columns. -/
theorem columnSteps_migrateOrRebuild (hd : p.dialect = .sqlite) (hn : needsRebuild d = false)
    (h : p.migrateOrRebuild diff source target d = .ok script) :
    ∃ c : FieldChanges source target d, script.flatMap Statement.columnSteps = c.steps := by
  have hne : p.dialect ≠ .mysql := by rw [hd]; decide
  obtain ⟨hmodified, hremoved⟩ : d.modifiedFields = [] ∧ d.removedFields = [] := by
    simp only [needsRebuild, Bool.or_eq_false_iff, Bool.not_eq_false', List.isEmpty_iff] at hn
    exact ⟨hn.1.1.1.1.1, hn.1.1.1.1.2⟩
  rw [migrateOrRebuild, hn] at h
  obtain ⟨drops, hdrops, h⟩ := except_bind_eq_ok_iff.1 h
  obtain ⟨renames, hrenames, h⟩ := except_bind_eq_ok_iff.1 h
  obtain ⟨added, hadded, h⟩ := except_bind_eq_ok_iff.1 h
  obtain ⟨additions, hadditions, h⟩ := except_bind_eq_ok_iff.1 h
  obtain ⟨creations, hcreations, h⟩ := except_bind_eq_ok_iff.1 h
  obtain ⟨renamed, hrenamed, hmoves⟩ := exists_resolvePairs hrenames
  refine ⟨⟨renamed, [], added, [], hrenamed, by rw [hmodified]; rfl, hadded, by rw [hremoved]; rfl⟩, ?_⟩
  rw [← Except.ok.inj h]
  simp only [List.flatMap_append, columnSteps_dropIndices hdrops, columnSteps_addConstraints hcreations,
    flatMap_ofMove hmoves fun _ _ hs => columnSteps_renameColumn hs, columnSteps_addColumns hne hadditions,
    List.nil_append, List.append_nil, FieldChanges.steps, FieldChanges.moves, ColumnPlan.steps, List.map_nil]

theorem mem_columnSet_of_keptColumn? {pair : String × String} (hf : f ∈ target.fields)
    (h : keptColumn? source d f = some pair) : pair.1 ∈ source.columnSet ∧ pair.2 ∈ target.columnSet := by
  unfold keptColumn? at h
  split at h
  · cases h
  · obtain ⟨old, ho, rfl⟩ := Option.map_eq_some_iff.1 h
    exact ⟨Entity.mem_columnSet.2 ⟨old, Entity.mem_of_field? ho, rfl⟩, Entity.mem_columnSet.2 ⟨f, hf, rfl⟩⟩

/-- SQLite has neither sequences nor descriptions, so that a table is made by one statement. -/
theorem addEntity_eq_ok_of_sqlite {db : Database} (hd : p.dialect = .sqlite) (h : p.addEntity db e = .ok script) :
    ∃ definition, p.tableDefinition db e = .ok definition ∧ script = [.createTable definition] := by
  obtain ⟨definition, hdef, h⟩ := except_bind_eq_ok_iff.1 h
  have hdescribe : p.describe e = [] := by rw [describe, hd]
  have hsequence : p.ownSequence? e = none := by rw [ownSequence?, hd]; rfl
  refine ⟨definition, hdef, ?_⟩
  rw [← Except.ok.inj h, hdescribe, hsequence]
  rfl

/-- The new table has the columns of the target, and only columns that are there are copied. -/
theorem replay_rebuildTable (hd : p.dialect = .sqlite) (hc : (target.fields.map Field.column).Nodup)
    (h : p.rebuildTable diff source target d = .ok script) :
    script.replay source.columnSet = some target.columnSet := by
  obtain ⟨created, hcr, h⟩ := except_bind_eq_ok_iff.1 h
  obtain ⟨definition, hdef, rfl⟩ := addEntity_eq_ok_of_sqlite hd hcr
  have hindices : (p.addIndices target).flatMap Statement.columnSteps = [] := by
    rw [List.flatMap_eq_nil_iff]
    intro s hs
    obtain ⟨i, _, rfl⟩ := mem_addIndices hs
    rfl
  have hkept : ∀ pair ∈ target.fields.filterMap (keptColumn? source d),
      pair.1 ∈ source.columnSet ∧ pair.2 ∈ target.columnSet := by
    intro pair hp
    obtain ⟨f, hf, hp⟩ := List.mem_filterMap.1 hp
    exact mem_columnSet_of_keptColumn? hf hp
  rw [← Except.ok.inj h, Script.replay]
  generalize target.fields.filterMap (keptColumn? source d) = kept at hkept
  have hsaved : runAll ((kept.map Prod.fst).map use) source.columnSet = some source.columnSet := by
    refine runAll_stays (List.forall_mem_map.2 (List.forall_mem_map.2 fun pair hp => ?_))
    exact run_use (hkept pair hp).1
  have hrestored : runAll (kept.map fun pair => use pair.2) target.columnSet = some target.columnSet :=
    runAll_stays (List.forall_mem_map.2 fun pair hp => run_use (hkept pair hp).2)
  have hadds : runAll (definition.columnNames.map add) ∅ = some target.columnSet := by
    rw [(columnNames_tableDefinition hdef).2]
    exact runAll_adds_iff.2 ⟨hc, by simp, by simp [Entity.columnSet]⟩
  simp only [List.cons_append, List.nil_append, List.flatMap_cons, List.flatMap_append,
    List.flatMap_nil, hindices, Statement.columnSteps, List.append_nil, runAll_append, hsaved,
    Option.bind_some]
  rw [runAll_cons, run, Option.bind_some]
  change (runAll (definition.columnNames.map add) ∅).bind _ = _
  rw [hadds, Option.bind_some, hrestored]

end Platform

end Tablecraft
