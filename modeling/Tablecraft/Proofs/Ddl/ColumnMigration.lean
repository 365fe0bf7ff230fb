import Tablecraft.Proofs.Ddl.ColumnSteps

namespace Tablecraft

open List Edit ColumnStep

variable {p : Platform} {diff : DatabaseDiff} {source target e : Entity} {d : EntityDiff} {script : Script}
  {f g : Field} {renames : List NamePair}

theorem Entity.eq_of_forall₂_field? (hn : e.fieldNames.Nodup) {fields found : List Field}
    (hf : ∀ f ∈ fields, f ∈ e.fields)
    (h : Forall₂ (fun name f => e.field? name = some f) (fields.map (·.name)) found) : found = fields := by
  have hfound : found.map some = (fields.map (·.name)).map e.field? :=
    FirstMatch.map_eq_of_forall₂ h fun _ _ hx => hx.symm
  have hfields : (fields.map (·.name)).map e.field? = fields.map some := by
    rw [List.map_map]
    exact List.map_congr_left fun f hm => (Entity.field?_eq_some_iff hn).2 ⟨hf f hm, rfl⟩
  exact List.map_injective_iff.2 (Option.some_injective _) (hfound.trans hfields)

namespace FieldChanges

variable (c : FieldChanges source target d)

section

variable (hp : ColumnPlan source.columnSet target.columnSet c.moves (c.added.map Field.column)
  (c.removed.map Field.column))

include hp

/-- A column that goes at last is there until then. -/
theorem removed_stays : ∀ x ∈ c.removed.map Field.column,
    x ∈ source.columnSet ∧ x ∉ (c.renamed.map fieldColumns).map Prod.fst := by
  have hmoves : (c.renamed.map fieldColumns).map Prod.fst ⊆ c.moves.map Prod.fst := by
    rw [moves, List.map_append, List.map_append]
    exact List.subset_append_left _ _
  exact fun x hx => ⟨hp.sources_subset x (List.mem_append_right _ hx),
    fun hm => (List.nodup_append.1 hp.sources).2.2 x (hmoves hm) x hx rfl⟩

theorem runAll_changes {changes : List ColumnStep} (hk : ∀ pair ∈ c.changed, pair.1.column = pair.2.column)
    (hc : ∀ step ∈ changes, ∃ pair ∈ c.changed, step = .use pair.2.column) :
    runAll ((c.renamed.map fieldColumns).map ofMove ++ changes ++ (c.added.map Field.column).map .add ++
      (c.removed.map Field.column).map .drop) source.columnSet = runAll c.steps source.columnSet := by
  obtain ⟨hsources, _, _⟩ := List.nodup_append.1 hp.sources
  obtain ⟨htargets, _, _⟩ := List.nodup_append.1 hp.targets
  rw [moves, List.map_append, List.map_append] at hsources htargets
  obtain ⟨hs, _, hdistinct⟩ := List.nodup_append.1 hsources
  obtain ⟨ht, _, _⟩ := List.nodup_append.1 htargets
  rw [steps, ColumnPlan.steps, moves, List.map_append, List.map_append]
  simp only [List.append_assoc]
  refine runAll_append_congr fun s hrun => ?_
  have hmem {pair : Field × Field} (hpair : pair ∈ c.renamed ++ c.changed) :
      pair.1.column ∈ source.columnSet := by
    refine hp.sources_subset _ (List.mem_append_left _ ?_)
    rw [moves, List.map_map]
    exact List.mem_map_of_mem (f := Prod.fst ∘ fieldColumns) hpair
  obtain ⟨_, _, rfl⟩ := (runAll_moves_iff hs ht fun m hm => by
    obtain ⟨pair, hpair, rfl⟩ := List.mem_map.1 hm
    exact hmem (List.mem_append_left _ hpair)).1 hrun
  have hthere : ∀ pair ∈ c.changed, pair.1.column ∈ relocate (c.renamed.map fieldColumns) source.columnSet := by
    intro pair hpair
    refine mem_relocate.2 (.inl ⟨hmem (List.mem_append_right _ hpair), fun hm => ?_⟩)
    exact hdistinct _ hm pair.1.column (List.mem_map.2 ⟨fieldColumns pair, List.mem_map_of_mem hpair, rfl⟩) rfl
  rw [runAll_append, runAll_append, runAll_stays fun step hstep => ?_, runAll_stays fun step hstep => ?_]
  · obtain ⟨move, hm, rfl⟩ := List.mem_map.1 hstep
    obtain ⟨pair, hpair, rfl⟩ := List.mem_map.1 hm
    rw [ofMove, fieldColumns, ← hk pair hpair]
    exact run_rename_self (hthere pair hpair)
  · obtain ⟨pair, hpair, rfl⟩ := hc step hstep
    rw [← hk pair hpair]
    exact run_use (hthere pair hpair)

/-- New columns come in the order of the target, so each finds the one behind which it goes. -/
theorem runAll_insertions (hn : target.Numbered) (hct : (target.fields.map Field.column).Nodup)
    (hadded : ∃ q, c.added = target.fields.filter q) :
    runAll (c.moves.map ofMove ++ (c.added.map fun f =>
      (Platform.previousColumn? target f, f.column)).flatMap insertion ++
        (c.removed.map Field.column).map .drop) source.columnSet = runAll c.steps source.columnSet := by
  obtain ⟨hs, _, _⟩ := List.nodup_append.1 hp.sources
  obtain ⟨ht, _, _⟩ := List.nodup_append.1 hp.targets
  rw [steps, ColumnPlan.steps]
  simp only [List.append_assoc]
  refine runAll_append_congr fun s hrun => ?_
  obtain ⟨_, _, rfl⟩ := (runAll_moves_iff hs ht hp.mem_of_moves).1 hrun
  rw [runAll_append, runAll_append, ColumnStep.runAll_insertions]
  · simp only [List.map_map, Function.comp_def]
  obtain ⟨q, hq⟩ := hadded
  intro before insert after hsplit previous hprevious
  obtain ⟨early, rest, hsplit', rfl, hrest⟩ := List.map_eq_append_iff.1 hsplit
  obtain ⟨f, late, rfl, rfl, _⟩ := List.map_eq_cons_iff.1 hrest
  obtain ⟨g, hgt, rfl, hearly⟩ := Platform.exists_previous_of_filter hn (hq.symm.trans hsplit') hprevious
  by_cases hnew : g.column ∈ c.added.map Field.column
  · right
    obtain ⟨g', hg', hgg⟩ := List.mem_map.1 hnew
    rw [hq] at hg'
    obtain ⟨hg't, hqg⟩ := List.mem_filter.1 hg'
    obtain rfl := List.inj_on_of_nodup_map hct hg't hgt hgg
    rw [List.map_map]
    exact List.mem_map_of_mem (f := Field.column) (hearly hqg)
  · left
    by_cases hmoved : g.column ∈ c.moves.map Prod.snd
    · exact mem_relocate.2 (.inr hmoved)
    · have hkept := (hp.kept g.column).2 ⟨Entity.mem_columnSet.2 ⟨g, hgt, rfl⟩, by simp [hmoved, hnew]⟩
      exact mem_relocate.2 (.inl ⟨hkept.1, fun hm => hkept.2 (List.mem_append_left _ hm)⟩)

end

end FieldChanges

/-- Every new name is free when its turn comes: no column that goes is one of the target's, and no
column takes the name of one that moves later. -/
structure EntityDiff.NamesFree (d : EntityDiff) (source target : Entity) : Prop where
  removed : ∀ name ∈ d.removedFields, ∀ f ∈ source.field? name, f.column ∉ target.columnSet
  moved : (d.movedColumns source target).Pairwise fun m n => m.2 ≠ n.1

instance (d : EntityDiff) (source target : Entity) : Decidable (d.NamesFree source target) :=
  decidable_of_iff (_ ∧ _) ⟨fun h => ⟨h.1, h.2⟩, fun h => ⟨h.removed, h.moved⟩⟩

theorem FieldChanges.runAll_steps_iff (c : FieldChanges source target d) {result : Finset String}
    (hp : ColumnPlan source.columnSet target.columnSet c.moves (c.added.map Field.column)
      (c.removed.map Field.column)) :
    runAll c.steps source.columnSet = some result ↔ target.columnSet = result ∧ d.NamesFree source target := by
  have hremoved : (∀ column ∈ c.removed.map Field.column, column ∉ target.columnSet) ↔
      ∀ name ∈ d.removedFields, ∀ f ∈ source.field? name, f.column ∉ target.columnSet := by
    have hfound := (mapM_eq_ok_iff.1 c.removed_eq).imp fun _ _ h => Entity.findField_eq_ok_iff.1 h
    rw [List.forall_mem_map]
    constructor
    · intro h name hname f hf
      obtain ⟨g, hg, hgn⟩ := FirstMatch.exists_of_mem hfound hname
      obtain rfl := Option.some.inj (hf.symm.trans hgn)
      exact h f hg
    · intro h f hf
      obtain ⟨name, hname, hfn⟩ := FirstMatch.exists_of_mem' hfound hf
      exact h name hname f hfn
  rw [steps, hp.runAll_steps_iff, hremoved, c.moves_eq]
  constructor
  · rintro ⟨hr, hm, hresult⟩
    exact ⟨hresult, hr, hm⟩
  · rintro ⟨hresult, hr, hm⟩
    exact ⟨hr, hm, hresult⟩

section

variable {table name : String}

theorem Entity.field?_retabled : (source.retabled table).field? name =
    (source.field? name).map fun f => { f with entity := some source.name } := by
  have hf : (source.retabled table).fields = source.fields.map fun f =>
    { f with entity := some source.name } := rfl
  rw [Entity.field?, hf, List.find?_map]
  rfl

theorem Entity.columnsFrom_retabled : target.columnsFrom (source.retabled table) = target.columnsFrom source := by
  simp only [Entity.columnsFrom, Entity.field?_retabled, Option.map_map]
  rfl

theorem EntityDiff.namesFree_retabled :
    d.NamesFree (source.retabled table) target ↔ d.NamesFree source target := by
  have hm : d.movedColumns (source.retabled table) target = d.movedColumns source target := by
    simp only [EntityDiff.movedColumns, Entity.field?_retabled, Option.bind_map]
    rfl
  constructor
  · intro h
    refine ⟨fun name hname f hf => h.removed name hname { f with entity := some source.name } ?_, hm ▸ h.moved⟩
    rw [Entity.field?_retabled, hf]
    rfl
  · intro h
    refine ⟨fun name hname f hf => ?_, hm ▸ h.moved⟩
    rw [Entity.field?_retabled] at hf
    obtain ⟨g, hg, rfl⟩ := Option.map_eq_some_iff.1 hf
    exact h.removed name hname g hg

end

theorem FieldChanges.exists_added_eq (c : FieldChanges source target d) (ht : target.fieldNames.Nodup)
    (hd : d = (EntityDiff.compare source target).declareRenames renames) :
    ∃ q, c.added = target.fields.filter q := by
  have hfound := (mapM_eq_ok_iff.1 c.added_eq).imp fun _ _ h => Entity.findField_eq_ok_iff.1 h
  obtain ⟨q, hq⟩ : ∃ q, d.addedFields = (target.fields.filter q).map (·.name) := by
    rw [hd, EntityDiff.declareRenames, EntityDiff.compare, Compare.missing, List.filter_map, List.filter_map,
      List.filter_filter]
    exact ⟨_, rfl⟩
  rw [hq] at hfound
  exact ⟨q, Entity.eq_of_forall₂_field? ht (fun f hf => (List.mem_filter.1 hf).1) hfound⟩

theorem FieldChanges.column_eq_of_mem_changed (c : FieldChanges source target d)
    (hd : d = (EntityDiff.compare source target).declareRenames renames)
    (hk : ∀ f ∈ source.fields, ∀ g ∈ target.fields, f.name = g.name → f.column = g.column) :
    ∀ pair ∈ c.changed, pair.1.column = pair.2.column := by
  intro pair hpair
  obtain ⟨names, hm, hf, hg⟩ := FirstMatch.exists_of_mem' (Platform.forall₂_of_resolvePairs c.changed_eq) hpair
  rw [hd] at hm
  obtain ⟨_, _, _, _, _, rfl⟩ := Compare.mem_modified_iff.1 hm
  exact hk _ (Entity.mem_of_field? hf) _ (Entity.mem_of_field? hg)
    ((Entity.name_of_field? hf).trans (Entity.name_of_field? hg).symm)

section

variable (hs : source.fieldNames.Nodup) (ht : target.fieldNames.Nodup)
  (hcs : (source.fields.map Field.column).Nodup) (hct : (target.fields.map Field.column).Nodup)
  (hr : (EntityDiff.compare source target).Renames renames)
  (hd : d = (EntityDiff.compare source target).declareRenames renames)

include hs ht hcs hct hr hd

section

variable (c : FieldChanges source target d) (hvacated : Vacated (c.renamed.map fieldColumns) source.columnSet)
  (hfresh : ∀ column ∈ c.added.map Field.column, column ∉ relocate (c.renamed.map fieldColumns) source.columnSet)

include hvacated hfresh

theorem FieldChanges.mem_columnsFrom_iff {column : String} : column ∈ target.columnsFrom source ↔
    (column ∈ relocate (c.renamed.map fieldColumns) source.columnSet ∨ column ∈ c.added.map Field.column) ∧
      column ∉ c.removed.map Field.column := by
  have hp := c.plan hs ht hcs hct hr hd
  have hgone {f : Field} (hf : f ∈ source.fields) := c.column_mem_gone_iff hs hcs hr hd hf
  have hnew {g : Field} (hg : g ∈ target.fields) := c.column_mem_fresh_iff ht hct hr hd hg
  have hnone {g : Field} : source.field? g.name = none ↔ g.name ∉ source.fieldNames := by
    rw [← Entity.hasField_iff, Entity.hasField, Option.not_isSome_iff_eq_none]
  rw [Entity.mem_columnsFrom, mem_relocate]
  constructor
  · rintro ⟨g, hg, rfl⟩
    cases hfound : source.field? g.name with
    | some f =>
        have hfn : f.name ∈ target.fieldNames := Entity.name_of_field? hfound ▸ List.mem_map_of_mem hg
        have hstays := mt (hgone (Entity.mem_of_field? hfound)).1 (not_not.2 hfn)
        rw [List.mem_append, not_or] at hstays
        exact ⟨.inl (.inl ⟨Entity.mem_columnSet.2 ⟨f, Entity.mem_of_field? hfound, rfl⟩, hstays.1⟩), hstays.2⟩
    | none =>
        have hin := List.mem_append.1 ((hnew hg).2 (hnone.1 hfound))
        refine ⟨hin.imp .inr id, fun hgoes => ?_⟩
        obtain ⟨hsource, hout⟩ := c.removed_stays hp _ hgoes
        rcases hin with hin | hin
        · obtain ⟨m, hm, hmg⟩ := List.mem_map.1 hin
          exact hout (hmg ▸ hvacated m hm (hmg ▸ hsource))
        · exact hfresh _ hin (mem_relocate.2 (.inl ⟨hsource, hout⟩))
  · rintro ⟨(⟨hsource, hout⟩ | hin) | hin, hstays⟩
    · obtain ⟨f, hf, rfl⟩ := Entity.mem_columnSet.1 hsource
      obtain ⟨g, hg, hgf⟩ := List.mem_map.1
        (not_not.1 (mt (hgone hf).2 fun hm => (List.mem_append.1 hm).elim hout hstays))
      refine ⟨g, hg, ?_⟩
      rw [hgf, (Entity.field?_eq_some_iff hs).2 ⟨hf, rfl⟩]
      rfl
    all_goals
      have hin : column ∈ c.fresh.map Field.column := by
        rw [c.map_column_fresh]
        simp only [List.mem_append, hin, true_or, or_true]
      obtain ⟨g, hg, rfl⟩ := List.mem_map.1 hin
      have hgt := Entity.mem_fields_of_names c.forall₂_fresh g hg
      refine ⟨g, hgt, ?_⟩
      rw [hnone.2 ((hnew hgt).1 (c.map_column_fresh ▸ hin))]
      rfl

end

/-- Whatever is changed in place, fields that keep their names keep their columns. -/
theorem FieldChanges.columnsFrom_eq (c : FieldChanges source target d) {changes : List ColumnStep}
    {result : Finset String} (hc : ∀ step ∈ changes, ∃ pair ∈ c.changed, step = .use pair.2.column)
    (h : runAll ((c.renamed.map fieldColumns).map ofMove ++ changes ++ (c.added.map Field.column).map .add ++
      (c.removed.map Field.column).map .drop) source.columnSet = some result) :
    target.columnsFrom source = result := by
  have hp := c.plan hs ht hcs hct hr hd
  obtain ⟨hsources, hremoved, _⟩ := List.nodup_append.1 hp.sources
  obtain ⟨htargets, _, _⟩ := List.nodup_append.1 hp.targets
  rw [moves, List.map_append, List.map_append] at hsources htargets
  obtain ⟨s, h, hdrops⟩ := Option.bind_eq_some_iff.1 (runAll_append.symm.trans h)
  obtain ⟨t, h, hadds⟩ := Option.bind_eq_some_iff.1 (runAll_append.symm.trans h)
  obtain ⟨u, hmoves, huses⟩ := Option.bind_eq_some_iff.1 (runAll_append.symm.trans h)
  obtain ⟨hvacated, _, rfl⟩ := (runAll_moves_iff (List.nodup_append.1 hsources).1 (List.nodup_append.1 htargets).1
    fun m hm => hp.mem_of_moves m (by simp only [moves, List.map_append, List.mem_append, hm, true_or])).1 hmoves
  obtain rfl := eq_of_runAll_uses (fun step hstep => by
    obtain ⟨pair, _, rfl⟩ := hc step hstep
    exact ⟨_, rfl⟩) huses
  obtain ⟨_, hfresh, rfl⟩ := runAll_adds_iff.1 hadds
  rw [runAll_drops hremoved fun x hx => Finset.mem_union_left _ (mem_relocate.2 (.inl (c.removed_stays hp x hx)))]
    at hdrops
  rw [← Option.some.inj hdrops]
  ext x
  rw [c.mem_columnsFrom_iff hs ht hcs hct hr hd hvacated hfresh, Finset.mem_sdiff, Finset.mem_union,
    List.mem_toFinset, List.mem_toFinset]

namespace Platform

/-- The dialect's script between the fields of an entity whose table has its new name already. -/
theorem replay_of_renamed (hn : p.dialect = .mysql → target.Numbered)
    (hk : p.dialect = .generic ∨ p.dialect = .postgres →
      ∀ f ∈ source.fields, ∀ g ∈ target.fields, f.name = g.name → f.column = g.column)
    (h : (match p.dialect with
      | .mysql => p.migrateMerged diff source target d
      | .sqlite => p.migrateOrRebuild diff source target d
      | _ => p.migrateStepwise diff source target d) = .ok script) (result : Finset String) :
    script.replay source.columnSet = some result ↔ target.columnSet = result ∧
      (p.dialect = .sqlite ∧ needsRebuild d = true ∨ d.NamesFree source target) := by
  have hplan (c : FieldChanges source target d) := c.plan hs ht hcs hct hr hd
  have hstepwise (hdialect : p.dialect = .generic ∨ p.dialect = .postgres)
      (h : p.migrateStepwise diff source target d = .ok script) :
      script.replay source.columnSet = some result ↔ target.columnSet = result ∧ d.NamesFree source target := by
    obtain ⟨c, changes, hchanges, hsteps⟩ := columnSteps_migrateStepwise hdialect h
    rw [Script.replay, hsteps, c.runAll_changes (hplan c) (c.column_eq_of_mem_changed hd (hk hdialect)) hchanges,
      c.runAll_steps_iff (hplan c)]
  cases hdialect : p.dialect with
  | generic =>
      rw [hdialect] at h
      simpa using hstepwise (.inl hdialect) h
  | postgres =>
      rw [hdialect] at h
      simpa using hstepwise (.inr hdialect) h
  | mysql =>
      rw [hdialect] at h
      obtain ⟨c, hsteps⟩ := columnSteps_migrateMerged h
      rw [Script.replay, hsteps, c.runAll_insertions (hplan c) (hn hdialect) hct (c.exists_added_eq ht hd),
        c.runAll_steps_iff (hplan c)]
      simp
  | sqlite =>
      rw [hdialect] at h
      cases hrebuild : needsRebuild d with
      | true =>
          rw [migrateOrRebuild, hrebuild] at h
          rw [replay_rebuildTable hdialect hct h, Option.some.injEq]
          simp
      | false =>
          obtain ⟨c, hsteps⟩ := columnSteps_migrateOrRebuild hdialect hrebuild h
          rw [Script.replay, hsteps, c.runAll_steps_iff (hplan c)]
          simp

theorem columnsFrom_of_renamed (hdialect : p.dialect = .generic ∨ p.dialect = .postgres)
    (h : (match p.dialect with
      | .mysql => p.migrateMerged diff source target d
      | .sqlite => p.migrateOrRebuild diff source target d
      | _ => p.migrateStepwise diff source target d) = .ok script) {result : Finset String}
    (hreplay : script.replay source.columnSet = some result) : target.columnsFrom source = result := by
  have h : p.migrateStepwise diff source target d = .ok script := by
    rcases hdialect with hp | hp <;> rw [hp] at h <;> exact h
  obtain ⟨c, changes, hchanges, hsteps⟩ := columnSteps_migrateStepwise hdialect h
  rw [Script.replay, hsteps] at hreplay
  exact c.columnsFrom_eq hs ht hcs hct hr hd hchanges hreplay

/-- Replayed on the columns of the source, the script for an entity leads to those of the target and
to nothing else, and it runs through exactly if every new name is free when its turn comes. A rebuilt
table always gets there. Dialects that change columns in place must find them where the target has them:
there the script leaves each field that keeps its name in its old column. -/
theorem migrateEntity_replay (hn : p.dialect = .mysql → target.Numbered)
    (hsource : diff.source.entity? d.source = some source) (htarget : diff.target.entity? d.target = some target)
    (h : p.migrateEntity diff d = .ok script) (result : Finset String) :
    ((p.dialect = .generic ∨ p.dialect = .postgres →
        ∀ f ∈ source.fields, ∀ g ∈ target.fields, f.name = g.name → f.column = g.column) →
      (script.replay source.columnSet = some result ↔ target.columnSet = result ∧
        (p.dialect = .sqlite ∧ needsRebuild d = true ∨ d.NamesFree source target))) ∧
    (p.dialect = .generic ∨ p.dialect = .postgres → script.replay source.columnSet = some result →
      target.columnsFrom source = result) := by
  obtain ⟨old, hold, h⟩ := except_bind_eq_ok_iff.1 h
  obtain ⟨new, hnew, h⟩ := except_bind_eq_ok_iff.1 h
  obtain rfl := Option.some.inj (htarget.symm.trans (entity?_of_findEntity hnew))
  rcases eq_or_retabled_of_renamedSource hsource hold with rfl | ⟨table, rfl⟩
  · exact ⟨fun hk => replay_of_renamed hs ht hcs hct hr hd hn hk h result,
      fun hdialect => columnsFrom_of_renamed hs ht hcs hct hr hd hdialect h⟩
  · have hcolumns : (source.retabled table).columnSet = source.columnSet := by
      rw [Entity.columnSet, Entity.columns_retabled, Entity.columnSet]
    rw [← hcolumns, ← @EntityDiff.namesFree_retabled source target d table,
      ← @Entity.columnsFrom_retabled source target table]
    rw [← @Entity.columns_retabled source table] at hcs
    rw [← @Entity.fieldNames_retabled source table] at hs
    rw [← EntityDiff.compare_retabled table] at hr hd
    refine ⟨fun hk => ?_, fun hdialect => columnsFrom_of_renamed hs ht hcs hct hr hd hdialect h⟩
    refine replay_of_renamed hs ht hcs hct hr hd hn (fun hdialect f hf g hg hfg => ?_) h result
    obtain ⟨f', hf', rfl⟩ := List.mem_map.1 hf
    exact hk hdialect f' hf' g hg hfg

end Platform

end

def columnsDocument (fields : List (String × String)) : SchemaDocument :=
  { databases := [
      { name := "library"
        entities := [
          { name := "book"
            fields := fields.map fun (name, column) => { name, column, fieldType := some "INTEGER" } }] }] }

/-- A column takes the place of one that has moved away, and a new one comes after them. -/
theorem migrateEntity_replay_chain : ∃ source target a b script,
    (columnsDocument [("id", "id"), ("first", "a"), ("second", "b"), ("third", "c"), ("old", "x")]).finalized?
      { dialect := .mysql } = some source ∧
    (columnsDocument [("id", "id"), ("extra", "e"), ("one", "z"), ("two", "a"), ("third", "d"),
      ("new", "b")]).finalized? { dialect := .mysql } = some target ∧
    source.entity? "book" = some a ∧ target.entity? "book" = some b ∧ b.Numbered ∧
    (EntityDiff.compare a b).Renames [⟨"first", "one"⟩, ⟨"second", "two"⟩] ∧
    Platform.migrateEntity { dialect := .mysql } { source, target }
      ((EntityDiff.compare a b).declareRenames [⟨"first", "one"⟩, ⟨"second", "two"⟩]) = .ok script ∧
    a.columnSet ≠ b.columnSet ∧ script.replay a.columnSet = some b.columnSet := by
  have hf : ((columnsDocument [("id", "id"), ("first", "a"), ("second", "b"), ("third", "c"),
      ("old", "x")]).finalized? { dialect := .mysql }).any (fun source =>
      ((columnsDocument [("id", "id"), ("extra", "e"), ("one", "z"), ("two", "a"), ("third", "d"),
        ("new", "b")]).finalized? { dialect := .mysql }).any fun target =>
      (source.entity? "book").any fun a => (target.entity? "book").any fun b =>
      (Platform.migrateEntity { dialect := .mysql } { source, target }
        ((EntityDiff.compare a b).declareRenames [⟨"first", "one"⟩, ⟨"second", "two"⟩])).toOption.any fun _ =>
      decide (a.fieldNames.Nodup ∧ b.fieldNames.Nodup ∧ (a.fields.map Field.column).Nodup ∧
        (b.fields.map Field.column).Nodup ∧ b.fields.map (·.position) = List.range' 1 b.fields.length ∧
        (EntityDiff.compare a b).Renames [⟨"first", "one"⟩, ⟨"second", "two"⟩] ∧ a.columnSet ≠ b.columnSet ∧
        ((EntityDiff.compare a b).declareRenames [⟨"first", "one"⟩, ⟨"second", "two"⟩]).NamesFree a b) &&
      decide (a.name = "book" ∧ b.name = "book")) = true := by
    decide +kernel
  obtain ⟨source, hs, hf⟩ := (Option.any_eq_true _ _).1 hf
  obtain ⟨target, ht, hf⟩ := (Option.any_eq_true _ _).1 hf
  obtain ⟨a, ha, hf⟩ := (Option.any_eq_true _ _).1 hf
  obtain ⟨b, hb, hf⟩ := (Option.any_eq_true _ _).1 hf
  obtain ⟨script, hm, hf⟩ := (Option.any_eq_true _ _).1 hf
  rw [Bool.and_eq_true, decide_eq_true_eq, decide_eq_true_eq] at hf
  obtain ⟨⟨hna, hnb, hca, hcb, hn, hr, hne, hfree⟩, han, hbn⟩ := hf
  have hm := except_toOption_eq_some_iff.1 hm
  refine ⟨source, target, a, b, script, hs, ht, ha, hb, hn, hr, hm, hne, ?_⟩
  have hreplay := (Platform.migrateEntity_replay hna hnb hca hcb hr rfl (fun _ => hn) ?_ ?_ hm b.columnSet).1
  · refine (hreplay fun h => ?_).2 ⟨rfl, .inr hfree⟩
    rcases h with h | h <;> cases h
  · rw [← ha, ← han]
    rfl
  · rw [← hb, ← hbn]
    rfl

def bookMigration? (p : Platform) (before after : List (String × String)) :
    Option (Entity × Entity × Script) := do
  let source ← (columnsDocument before).finalized? p
  let target ← (columnsDocument after).finalized? p
  let a ← source.entity? "book"
  let b ← target.entity? "book"
  let script ← (p.migrateEntity (.compare source target) (.compare a b)).toOption
  return (a, b, script)

def Platform.Migrates (p : Platform) (before after : List (String × String)) (script : Script)
    (reached : Option (Finset String)) : Prop :=
  ∃ m ∈ bookMigration? p before after, (m.1.fields.map Field.column).Nodup ∧
    (m.2.1.fields.map Field.column).Nodup ∧
    m.2.1.columnSet = (after.map Prod.snd).toFinset ∧ m.2.2 = script ∧ script.replay m.1.columnSet = reached

instance (p : Platform) (before after : List (String × String)) (script : Script)
    (reached : Option (Finset String)) :
    Decidable (p.Migrates before after script reached) :=
  inferInstanceAs (Decidable (∃ m ∈ bookMigration? p before after, _))

/-- A field that keeps its name and changes its column: one dialect does nothing, one changes a column that is
not there, and the others rename it or build the table anew. And a field that takes over the column of a
removed one is added before the column is free. -/
theorem exists_column_left_behind :
    Platform.Migrates { dialect := .postgres } [("title", "t")] [("title", "u")] [] (some {"t"}) ∧
    Platform.Migrates {} [("title", "t")] [("title", "u")]
      [.modifyColumns "book" [{ name := "u", definition := "INTEGER" }]] none ∧
    Platform.Migrates { dialect := .mysql } [("title", "t")] [("title", "u")]
      [.alterTable "book" [.change "t" { name := "u", definition := "INTEGER" }]] (some {"u"}) ∧
    (∃ m ∈ bookMigration? { dialect := .sqlite } [("title", "t")] [("title", "u")],
      m.2.2.replay m.1.columnSet = some m.2.1.columnSet) ∧
    Platform.Migrates {} [("authorId", "author_id")] [("author_id", "author_id")]
      [.addColumns "book" [{ name := "author_id", definition := "INTEGER" }],
          .dropColumn "book" "author_id"] none := by
  refine ⟨?_, ?_, ?_, ?_, ?_⟩ <;> decide +kernel

end Tablecraft
