import Tablecraft.Proofs.Ddl.ColumnReplay
import Tablecraft.Proofs.Diff.Comparison

namespace Tablecraft

open List Edit ColumnStep

variable {p : Platform} {source target e : Entity} {d : EntityDiff} {f g : Field} {renames : List NamePair}

namespace Entity

def columnSet (e : Entity) : Finset String := (e.fields.map Field.column).toFinset

theorem mem_columnSet {c : String} : c ∈ e.columnSet ↔ ∃ f ∈ e.fields, f.column = c := by
  simp [columnSet]

/-- The columns of the entity with those of an older version for the fields that were there under their names.
-/
def columnsFrom (e old : Entity) : Finset String :=
  (e.fields.map fun g => ((old.field? g.name).map Field.column).getD g.column).toFinset

theorem mem_columnsFrom {old : Entity} {c : String} : c ∈ e.columnsFrom old ↔
    ∃ g ∈ e.fields, ((old.field? g.name).map Field.column).getD g.column = c := by
  simp [columnsFrom]

theorem Numbered.position_eq {before after : List Field} (h : e.Numbered) (he : e.fields = before ++ f :: after) :
    f.position = before.length + 1 := by
  have hp : (e.fields.map (·.position))[before.length]? = some f.position := by simp [he]
  rw [h, List.getElem?_eq_some_iff] at hp
  obtain ⟨_, hp⟩ := hp
  rw [← hp, List.getElem_range']
  omega

theorem findField_eq_ok_iff {name : String} : e.findField name = .ok f ↔ e.field? name = some f := by
  unfold findField
  cases e.field? name <;> simp

end Entity

theorem Platform.forall₂_of_resolvePairs {pairs : List NamePair} {found : List (Field × Field)}
    (h : resolvePairs source target pairs = .ok found) :
    Forall₂ (fun pair fg => source.field? pair.source = some fg.1 ∧ target.field? pair.target = some fg.2)
      pairs found := by
  refine (mapM_eq_ok_iff.1 h).imp fun pair fg hfg => ?_
  obtain ⟨f, hf, hfg⟩ := except_bind_eq_ok_iff.1 hfg
  obtain ⟨g, hg, hfg⟩ := except_bind_eq_ok_iff.1 hfg
  cases hfg
  exact ⟨Entity.findField_eq_ok_iff.1 hf, Entity.findField_eq_ok_iff.1 hg⟩

def fieldColumns (pair : Field × Field) : String × String := (pair.1.column, pair.2.column)

structure FieldChanges (source target : Entity) (d : EntityDiff) where
  renamed : List (Field × Field)
  changed : List (Field × Field)
  added : List Field
  removed : List Field
  renamed_eq : Platform.resolvePairs source target d.renamedFields = .ok renamed
  changed_eq : Platform.resolvePairs source target d.modifiedFields = .ok changed
  added_eq : d.addedFields.mapM target.findField = .ok added
  removed_eq : d.removedFields.mapM source.findField = .ok removed

def EntityDiff.movedColumns (d : EntityDiff) (source target : Entity) : List (String × String) :=
  (d.renamedFields ++ d.modifiedFields).filterMap fun pair =>
    (source.field? pair.source).bind fun f => (target.field? pair.target).map fun g => (f.column, g.column)

namespace FieldChanges

def moves (c : FieldChanges source target d) : List (String × String) := (c.renamed ++ c.changed).map fieldColumns

def steps (c : FieldChanges source target d) : List ColumnStep :=
  ColumnPlan.steps c.moves (c.added.map Field.column) (c.removed.map Field.column)

variable (c : FieldChanges source target d)

theorem forall₂_pairs : Forall₂ (fun pair fg => source.field? pair.source = some fg.1 ∧
    target.field? pair.target = some fg.2) (d.renamedFields ++ d.modifiedFields) (c.renamed ++ c.changed) :=
  List.rel_append (Platform.forall₂_of_resolvePairs c.renamed_eq) (Platform.forall₂_of_resolvePairs c.changed_eq)

theorem moves_eq : c.moves = d.movedColumns source target := by
  have h := c.forall₂_pairs
  unfold moves EntityDiff.movedColumns
  generalize d.renamedFields ++ d.modifiedFields = pairs at h
  generalize c.renamed ++ c.changed = found at h
  induction h with
  | nil => rfl
  | cons hfg _ ih =>
      rw [List.map_cons, ih, List.filterMap_cons_some]
      simp [hfg.1, hfg.2, fieldColumns]

def leaving (c : FieldChanges source target d) : List Field := (c.renamed ++ c.changed).map Prod.fst ++ c.removed

def coming (c : FieldChanges source target d) : List Field := (c.renamed ++ c.changed).map Prod.snd ++ c.added

theorem map_column_leaving :
    c.leaving.map Field.column = c.moves.map Prod.fst ++ c.removed.map Field.column := by
  rw [leaving, moves, List.map_append, List.map_map, List.map_map]
  rfl

theorem map_column_coming :
    c.coming.map Field.column = c.moves.map Prod.snd ++ c.added.map Field.column := by
  rw [coming, moves, List.map_append, List.map_map, List.map_map]
  rfl

theorem forall₂_leaving : Forall₂ (fun name f => source.field? name = some f) d.leavingNames c.leaving := by
  refine List.rel_append ?_ ((mapM_eq_ok_iff.1 c.removed_eq).imp fun _ _ h => Entity.findField_eq_ok_iff.1 h)
  exact List.forall₂_map_left_iff.2 (List.forall₂_map_right_iff.2 (c.forall₂_pairs.imp fun _ _ h => h.1))

theorem forall₂_coming : Forall₂ (fun name g => target.field? name = some g) d.comingNames c.coming := by
  refine List.rel_append ?_ ((mapM_eq_ok_iff.1 c.added_eq).imp fun _ _ h => Entity.findField_eq_ok_iff.1 h)
  exact List.forall₂_map_left_iff.2 (List.forall₂_map_right_iff.2 (c.forall₂_pairs.imp fun _ _ h => h.2))

def gone (c : FieldChanges source target d) : List Field := c.renamed.map Prod.fst ++ c.removed

def fresh (c : FieldChanges source target d) : List Field := c.renamed.map Prod.snd ++ c.added

theorem map_column_gone : c.gone.map Field.column =
    (c.renamed.map fieldColumns).map Prod.fst ++ c.removed.map Field.column := by
  rw [gone, List.map_append, List.map_map, List.map_map]
  rfl

theorem map_column_fresh : c.fresh.map Field.column =
    (c.renamed.map fieldColumns).map Prod.snd ++ c.added.map Field.column := by
  rw [fresh, List.map_append, List.map_map, List.map_map]
  rfl

theorem forall₂_gone : Forall₂ (fun name f => source.field? name = some f)
    (d.renamedFields.map (·.source) ++ d.removedFields) c.gone := by
  refine List.rel_append ?_ ((mapM_eq_ok_iff.1 c.removed_eq).imp fun _ _ h => Entity.findField_eq_ok_iff.1 h)
  exact List.forall₂_map_left_iff.2 (List.forall₂_map_right_iff.2
    ((Platform.forall₂_of_resolvePairs c.renamed_eq).imp fun _ _ h => h.1))

theorem forall₂_fresh : Forall₂ (fun name g => target.field? name = some g)
    (d.renamedFields.map (·.target) ++ d.addedFields) c.fresh := by
  refine List.rel_append ?_ ((mapM_eq_ok_iff.1 c.added_eq).imp fun _ _ h => Entity.findField_eq_ok_iff.1 h)
  exact List.forall₂_map_left_iff.2 (List.forall₂_map_right_iff.2
    ((Platform.forall₂_of_resolvePairs c.renamed_eq).imp fun _ _ h => h.2))

end FieldChanges

theorem Entity.mem_fields_of_names {names : List String} {fields : List Field}
    (h : Forall₂ (fun name f => e.field? name = some f) names fields) : ∀ f ∈ fields, f ∈ e.fields := by
  intro f hf
  obtain ⟨name, _, hf⟩ := FirstMatch.exists_of_mem' h hf
  exact Entity.mem_of_field? hf

theorem Entity.nodup_columns_of_names {names : List String} {fields : List Field}
    (h : Forall₂ (fun name f => e.field? name = some f) names fields) (hn : names.Nodup)
    (hc : (e.fields.map Field.column).Nodup) : (fields.map Field.column).Nodup := by
  have hnames : fields.map (·.name) = names := by
    rw [FirstMatch.map_eq_of_forall₂ h fun _ _ hf => Entity.name_of_field? hf, List.map_id']
  have hmem := mem_fields_of_names h
  rw [← hnames] at hn
  exact hn.of_map.map_on fun f hf g hg hfg => List.inj_on_of_nodup_map hc (hmem f hf) (hmem g hg) hfg

theorem Entity.mem_columns_iff_of_names {names : List String} {fields : List Field}
    (h : Forall₂ (fun name f => e.field? name = some f) names fields) (hn : e.fieldNames.Nodup)
    (hc : (e.fields.map Field.column).Nodup) (hf : f ∈ e.fields) :
    f.column ∈ fields.map Field.column ↔ f.name ∈ names := by
  constructor
  · intro hm
    obtain ⟨g, hg, hgf⟩ := List.mem_map.1 hm
    obtain ⟨name, hname, hgn⟩ := FirstMatch.exists_of_mem' h hg
    obtain rfl := List.inj_on_of_nodup_map hc (Entity.mem_of_field? hgn) hf hgf
    rwa [Entity.name_of_field? hgn]
  · intro hm
    obtain ⟨g, hg, hgn⟩ := FirstMatch.exists_of_mem h hm
    obtain rfl := Option.some.inj (((Entity.field?_eq_some_iff hn).2 ⟨hf, rfl⟩).symm.trans hgn)
    exact List.mem_map_of_mem hg

theorem Field.column_of_sameStorage (h : f.sameStorage g = true) : f.column = g.column := by
  simp only [Field.sameStorage, Bool.and_eq_true, beq_iff_eq] at h
  exact h.1.1.1.1.1.1.1.1.1

section

variable (hs : source.fieldNames.Nodup) (ht : target.fieldNames.Nodup)
  (hcs : (source.fields.map Field.column).Nodup) (hct : (target.fields.map Field.column).Nodup)
  (hr : (EntityDiff.compare source target).Renames renames)
  (hd : d = (EntityDiff.compare source target).declareRenames renames)

include hs ht hcs hct hr hd

namespace FieldChanges

variable (c : FieldChanges source target d)

/-- What a comparison leaves alone has one column in both entities. -/
theorem plan : ColumnPlan source.columnSet target.columnSet c.moves (c.added.map Field.column)
    (c.removed.map Field.column) := by
  subst hd
  have hleaving {f : Field} (hf : f ∈ source.fields) :=
    (Entity.mem_columns_iff_of_names c.forall₂_leaving hs hcs hf).trans
      (EntityDiff.name_mem_leavingNames_iff hs ht hr hf)
  have hcoming {g : Field} (hg : g ∈ target.fields) :=
    (Entity.mem_columns_iff_of_names c.forall₂_coming ht hct hg).trans
      (EntityDiff.name_mem_comingNames_iff hs ht hr hg)
  rw [c.map_column_leaving] at hleaving
  rw [c.map_column_coming] at hcoming
  refine ⟨?_, ?_, ?_, ?_, ?_⟩
  · rw [← c.map_column_leaving]
    exact Entity.nodup_columns_of_names c.forall₂_leaving (EntityDiff.nodup_leavingNames hs ht hr) hcs
  · rw [← c.map_column_coming]
    exact Entity.nodup_columns_of_names c.forall₂_coming (EntityDiff.nodup_comingNames hs ht hr) hct
  · rw [← c.map_column_leaving, List.forall_mem_map]
    exact fun f hf => Entity.mem_columnSet.2 ⟨f, Entity.mem_fields_of_names c.forall₂_leaving f hf, rfl⟩
  · rw [← c.map_column_coming, List.forall_mem_map]
    exact fun g hg => Entity.mem_columnSet.2 ⟨g, Entity.mem_fields_of_names c.forall₂_coming g hg, rfl⟩
  · intro column
    rw [Entity.mem_columnSet, Entity.mem_columnSet]
    constructor
    · rintro ⟨⟨f, hf, rfl⟩, hstays⟩
      obtain ⟨g, hg, hgf, hsame⟩ := not_not.1 fun h => hstays ((hleaving hf).2 h)
      have hfg := Field.column_of_sameStorage hsame
      refine ⟨⟨g, hg, hfg.symm⟩, fun h => ?_⟩
      rw [hfg] at h
      exact (hcoming hg).1 h ⟨f, hf, hgf.symm, hsame⟩
    · rintro ⟨⟨g, hg, rfl⟩, hstays⟩
      obtain ⟨f, hf, hfn, hsame⟩ := not_not.1 fun h => hstays ((hcoming hg).2 h)
      have hfg := Field.column_of_sameStorage hsame
      refine ⟨⟨f, hf, hfg⟩, fun h => ?_⟩
      rw [← hfg] at h
      exact (hleaving hf).1 h ⟨g, hg, hfn.symm, hsame⟩

omit ht hct in
theorem column_mem_gone_iff (hf : f ∈ source.fields) :
    f.column ∈ (c.renamed.map fieldColumns).map Prod.fst ++ c.removed.map Field.column ↔
      f.name ∉ target.fieldNames := by
  rw [← c.map_column_gone, Entity.mem_columns_iff_of_names c.forall₂_gone hs hcs hf, hd,
    EntityDiff.mem_gone_iff hr]
  exact and_iff_right (List.mem_map_of_mem hf)

omit hs hcs in
theorem column_mem_fresh_iff (hg : g ∈ target.fields) :
    g.column ∈ (c.renamed.map fieldColumns).map Prod.snd ++ c.added.map Field.column ↔
      g.name ∉ source.fieldNames := by
  rw [← c.map_column_fresh, Entity.mem_columns_iff_of_names c.forall₂_fresh ht hct hg, hd,
    EntityDiff.mem_fresh_iff hr]
  exact and_iff_right (List.mem_map_of_mem hg)

end FieldChanges

end

end Tablecraft
