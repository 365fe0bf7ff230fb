import Mathlib.Data.List.Nodup
import Tablecraft.Diff.Compare
import Tablecraft.Proofs.Model.Parts

namespace Tablecraft

namespace Compare

variable {α : Type} {name : α → String} {same : α → α → Bool} {g : α → α} {present others source target : List α}
  {n : String} {pair : NamePair}

theorem mem_missing_iff : n ∈ missing name present others ↔ n ∈ present.map name ∧ n ∉ others.map name := by
  simp [missing]

theorem missing_map_left (hg : ∀ x, name (g x) = name x) :
    missing name (present.map g) others = missing name present others := by
  have hn : (present.map g).map name = present.map name := by
    rw [List.map_map]
    exact List.map_congr_left fun x _ => hg x
  rw [missing, hn, missing]

theorem missing_map_right (hg : ∀ x, name (g x) = name x) :
    missing name present (others.map g) = missing name present others := by
  simp [missing, List.any_map, Function.comp_def, hg]

theorem modified?_map (hg : ∀ x, name (g x) = name x) (hs : ∀ y x, same (g y) x = same y x) (x : α) :
    modified? name same (source.map g) x = modified? name same source x := by
  have hp : ((fun y => name y == name x) ∘ g) = fun y => name y == name x := by
    funext y
    simp [hg]
  unfold modified?
  rw [List.find?_map, hp]
  cases source.find? fun y => name y == name x with
  | none => rfl
  | some y => simp [hs]

theorem modified_map (hg : ∀ x, name (g x) = name x) (hs : ∀ y x, same (g y) x = same y x) :
    modified name same (source.map g) target = modified name same source target := by
  simp only [modified, funext (modified?_map hg hs)]

theorem modified?_eq_some_iff {x : α} : modified? name same source x = some pair ↔
    ∃ y, source.find? (fun y => name y == name x) = some y ∧ same y x = false ∧ pair = .same (name x) := by
  unfold modified?
  cases source.find? fun y => name y == name x with
  | none => simp
  | some y =>
      by_cases hs : same y x = true
      · simp [hs]
      · simp only [hs, Bool.false_eq_true, if_false, Option.some.injEq, exists_eq_left', true_and]
        exact eq_comm

theorem mem_modified_iff : pair ∈ modified name same source target ↔ ∃ x ∈ target, ∃ y,
    source.find? (fun y => name y == name x) = some y ∧ same y x = false ∧ pair = .same (name x) := by
  simp only [modified, List.mem_filterMap, modified?_eq_some_iff]

theorem sublist_modified (name : α → String) (same : α → α → Bool) (source target : List α) :
    ((modified name same source target).map (·.target)).Sublist (target.map name) := by
  induction target with
  | nil => exact List.Sublist.slnil
  | cons x rest ih =>
      cases hx : modified? name same source x with
      | none =>
          rw [modified, List.filterMap_cons_none hx]
          exact ih.cons (name x)
      | some pair =>
          obtain ⟨_, _, _, rfl⟩ := modified?_eq_some_iff.1 hx
          rw [modified, List.filterMap_cons_some hx]
          exact ih.cons_cons (name x)

theorem map_source_modified :
    (modified name same source target).map (·.source) = (modified name same source target).map (·.target) := by
  refine List.map_congr_left fun pair hp => ?_
  obtain ⟨_, _, _, _, _, rfl⟩ := mem_modified_iff.1 hp
  rfl

theorem find?_of_nodup (hd : (source.map name).Nodup) {y : α} (hy : y ∈ source) :
    source.find? (fun z => name z == name y) = some y := by
  have hfound : (source.find? fun z => name z == name y).isSome = true :=
    List.find?_isSome.2 ⟨y, hy, beq_self_eq_true _⟩
  obtain ⟨z, hz⟩ := Option.isSome_iff_exists.1 hfound
  have hn : name z = name y := by simpa using List.find?_some hz
  rw [hz, List.inj_on_of_nodup_map hd (List.mem_of_find?_eq_some hz) hy hn]

/-- Where nothing is modified, namesakes are the same. -/
theorem forall₂_same_of_modified {R : α → α → Prop} {xs ys : List α} (hd : (source.map name).Nodup)
    (hm : modified name same source target = []) (hn : ∀ x y, R x y → name x = name y) (h : List.Forall₂ R xs ys)
    (hxs : ∀ x ∈ xs, x ∈ source) (hys : ∀ y ∈ ys, y ∈ target) :
    List.Forall₂ (fun x y => R x y ∧ same x y = true) xs ys := by
  induction h with
  | nil => exact .nil
  | @cons x y xs ys hR _ ih =>
      obtain ⟨hx, hxs⟩ := List.forall_mem_cons.1 hxs
      obtain ⟨hy, hys⟩ := List.forall_mem_cons.1 hys
      refine .cons ⟨hR, ?_⟩ (ih hxs hys)
      have hf := find?_of_nodup hd hx
      rw [hn x y hR] at hf
      cases hs : same x y with
      | true => rfl
      | false =>
          have hpair := mem_modified_iff.2 ⟨y, hy, x, hf, hs, rfl⟩
          rw [hm] at hpair
          cases hpair

end Compare

open Compare

namespace Entity

variable {e : Entity} {table : String}

theorem allIndices_retabled : (e.retabled table).allIndices =
    e.allIndices.map fun i => { i.pinName with table := some table } := by
  simp [retabled, setTable, rewire, allIndices, Entity.table, Function.comp_def]

theorem fieldNames_retabled : (e.retabled table).fieldNames = e.fieldNames := by
  simp [retabled, setTable, rewire, fieldNames]

theorem columns_retabled : (e.retabled table).fields.map Field.column = e.fields.map Field.column := by
  simp [retabled, setTable, rewire, Field.column]

end Entity

namespace EntityDiff

variable {source target : Entity} {f g : Field} {name : String}

/-- Another table changes nothing, since the old names are kept. -/
theorem compare_retabled (table : String) : compare (source.retabled table) target = compare source target := by
  have hf : (source.retabled table).fields = source.fields.map fun f =>
    { f with entity := some source.name } := rfl
  have hr : (source.retabled table).relations =
      source.relations.map fun r => r.pinName.setOwner (some source.name) (some table) := by
    simp [Entity.retabled, Entity.setTable, Entity.rewire, Entity.table]
  have hk : (source.retabled table).primaryKeyNames = source.primaryKeyNames := by
    simp [Entity.primaryKeyNames, Entity.primaryKey, hf, List.filter_map, Function.comp_def]
  rw [compare, hf, hr, hk, Entity.allIndices_retabled, compare]
  congr 1
  · exact missing_map_right fun _ => rfl
  · exact missing_map_left fun _ => rfl
  · exact modified_map (fun _ => rfl) fun _ _ => rfl
  · exact missing_map_right fun _ => rfl
  · exact missing_map_left fun _ => rfl
  · exact modified_map (fun _ => rfl) fun _ _ => rfl
  · exact missing_map_right fun _ => rfl
  · exact missing_map_left fun _ => rfl
  · exact modified_map (fun _ => rfl) fun _ _ => rfl

def declareRenames (renames : List NamePair) (d : EntityDiff) : EntityDiff :=
  { d with
    addedFields := d.addedFields.filter fun name => !(renames.map (·.target)).contains name
    removedFields := d.removedFields.filter fun name => !(renames.map (·.source)).contains name
    renamedFields := renames }

/-- Each pair leads from a removed field to an added one, and no field is in two pairs. -/
structure Renames (d : EntityDiff) (renames : List NamePair) : Prop where
  sources : (renames.map (·.source)).Nodup
  targets : (renames.map (·.target)).Nodup
  removed : ∀ pair ∈ renames, pair.source ∈ d.removedFields
  added : ∀ pair ∈ renames, pair.target ∈ d.addedFields

instance (d : EntityDiff) (renames : List NamePair) : Decidable (d.Renames renames) :=
  decidable_of_iff (_ ∧ _ ∧ _ ∧ _) ⟨fun h => ⟨h.1, h.2.1, h.2.2.1, h.2.2.2⟩,
    fun h => ⟨h.sources, h.targets, h.removed, h.added⟩⟩

theorem Renames.mem_removedFields {d : EntityDiff} {renames : List NamePair} (hr : d.Renames renames)
    (h : name ∈ renames.map (·.source)) : name ∈ d.removedFields := by
  obtain ⟨pair, hp, rfl⟩ := List.mem_map.1 h
  exact hr.removed pair hp

theorem Renames.mem_addedFields {d : EntityDiff} {renames : List NamePair} (hr : d.Renames renames)
    (h : name ∈ renames.map (·.target)) : name ∈ d.addedFields := by
  obtain ⟨pair, hp, rfl⟩ := List.mem_map.1 h
  exact hr.added pair hp

def leavingNames (d : EntityDiff) : List String :=
  (d.renamedFields ++ d.modifiedFields).map (·.source) ++ d.removedFields

def comingNames (d : EntityDiff) : List String :=
  (d.renamedFields ++ d.modifiedFields).map (·.target) ++ d.addedFields

variable {renames : List NamePair}

theorem mem_leavingNames_iff (hr : (compare source target).Renames renames) :
    name ∈ ((compare source target).declareRenames renames).leavingNames ↔
      name ∈ (compare source target).removedFields ∨
        name ∈ (compare source target).modifiedFields.map (·.source) := by
  have hsub : name ∈ renames.map (·.source) → _ := hr.mem_removedFields
  simp only [leavingNames, declareRenames, List.map_append, List.mem_append, List.mem_filter, Bool.not_eq_true',
    List.contains_eq_mem, decide_eq_false_iff_not]
  tauto

theorem mem_comingNames_iff (hr : (compare source target).Renames renames) :
    name ∈ ((compare source target).declareRenames renames).comingNames ↔
      name ∈ (compare source target).addedFields ∨
        name ∈ (compare source target).modifiedFields.map (·.target) := by
  have hsub : name ∈ renames.map (·.target) → _ := hr.mem_addedFields
  simp only [comingNames, declareRenames, List.map_append, List.mem_append, List.mem_filter, Bool.not_eq_true',
    List.contains_eq_mem, decide_eq_false_iff_not]
  tauto

/-- A field is renamed or removed exactly if the target does not have its name. -/
theorem mem_gone_iff (hr : (compare source target).Renames renames) :
    name ∈ ((compare source target).declareRenames renames).renamedFields.map (·.source) ++
        ((compare source target).declareRenames renames).removedFields ↔
      name ∈ source.fieldNames ∧ name ∉ target.fieldNames := by
  have hsub : name ∈ renames.map (·.source) → _ := hr.mem_removedFields
  rw [Entity.fieldNames, Entity.fieldNames, ← mem_missing_iff]
  change _ ↔ name ∈ (compare source target).removedFields
  simp only [declareRenames, List.mem_append, List.mem_filter, Bool.not_eq_true', List.contains_eq_mem,
    decide_eq_false_iff_not]
  tauto

/-- A field is renamed or added exactly if the source does not have its name. -/
theorem mem_fresh_iff (hr : (compare source target).Renames renames) :
    name ∈ ((compare source target).declareRenames renames).renamedFields.map (·.target) ++
        ((compare source target).declareRenames renames).addedFields ↔
      name ∈ target.fieldNames ∧ name ∉ source.fieldNames := by
  have hsub : name ∈ renames.map (·.target) → _ := hr.mem_addedFields
  rw [Entity.fieldNames, Entity.fieldNames, ← mem_missing_iff]
  change _ ↔ name ∈ (compare source target).addedFields
  simp only [declareRenames, List.mem_append, List.mem_filter, Bool.not_eq_true', List.contains_eq_mem,
    decide_eq_false_iff_not]
  tauto

theorem mem_modifiedFields_iff (hs : source.fieldNames.Nodup) :
    name ∈ (compare source target).modifiedFields.map (·.target) ↔
      ∃ f ∈ source.fields, ∃ g ∈ target.fields, f.name = name ∧ g.name = name ∧ f.sameStorage g = false := by
  simp only [compare, List.mem_map, mem_modified_iff]
  constructor
  · rintro ⟨_, ⟨g, hg, f, hf, hfg, rfl⟩, rfl⟩
    obtain ⟨hfm, hfn⟩ := (Entity.field?_eq_some_iff hs).1 hf
    exact ⟨f, hfm, g, hg, hfn, rfl, hfg⟩
  · rintro ⟨f, hf, g, hg, rfl, hn, hfg⟩
    exact ⟨_, ⟨g, hg, f, (Entity.field?_eq_some_iff hs).2 ⟨hf, hn.symm⟩, hfg, rfl⟩, hn⟩

theorem mem_names_of_modified (hs : source.fieldNames.Nodup)
    (h : name ∈ (compare source target).modifiedFields.map (·.target)) :
    name ∈ source.fieldNames ∧ name ∈ target.fieldNames := by
  obtain ⟨f, hf, g, hg, hfn, hgn, _⟩ := (mem_modifiedFields_iff hs).1 h
  exact ⟨hfn ▸ List.mem_map_of_mem hf, hgn ▸ List.mem_map_of_mem hg⟩

section

variable (hs : source.fieldNames.Nodup) (ht : target.fieldNames.Nodup)
    (hr : (compare source target).Renames renames)

include hs ht hr

theorem nodup_leavingNames : ((compare source target).declareRenames renames).leavingNames.Nodup := by
  have hm : ((compare source target).modifiedFields.map (·.source)).Nodup := by
    rw [compare, map_source_modified]
    exact ht.sublist (sublist_modified _ _ _ _)
  have hremoved : ∀ name ∈ (compare source target).modifiedFields.map (·.source),
      name ∉ (compare source target).removedFields := by
    intro name hn h
    rw [compare, map_source_modified] at hn
    exact (mem_missing_iff.1 h).2 (mem_names_of_modified hs hn).2
  rw [leavingNames, List.map_append, List.nodup_append', List.nodup_append']
  refine ⟨⟨hr.sources, hm, fun name hn h => ?_⟩, ((hs.filter _).filter _), fun name hn h => ?_⟩
  · obtain ⟨pair, hp, rfl⟩ := List.mem_map.1 hn
    exact hremoved _ h (hr.removed pair hp)
  · obtain ⟨h, hout⟩ := List.mem_filter.1 h
    rcases List.mem_append.1 hn with hn | hn
    · exact absurd hn (by simpa [declareRenames] using hout)
    · exact hremoved name hn h

theorem nodup_comingNames : ((compare source target).declareRenames renames).comingNames.Nodup := by
  have hm : ((compare source target).modifiedFields.map (·.target)).Nodup :=
    ht.sublist (sublist_modified _ _ _ _)
  have hadded : ∀ name ∈ (compare source target).modifiedFields.map (·.target),
      name ∉ (compare source target).addedFields := fun name hn h =>
    (mem_missing_iff.1 h).2 (mem_names_of_modified hs hn).1
  rw [comingNames, List.map_append, List.nodup_append', List.nodup_append']
  refine ⟨⟨hr.targets, hm, fun name hn h => ?_⟩, ((ht.filter _).filter _), fun name hn h => ?_⟩
  · obtain ⟨pair, hp, rfl⟩ := List.mem_map.1 hn
    exact hadded _ h (hr.added pair hp)
  · obtain ⟨h, hout⟩ := List.mem_filter.1 h
    rcases List.mem_append.1 hn with hn | hn
    · exact absurd hn (by simpa [declareRenames] using hout)
    · exact hadded name hn h

/-- A field leaves unless the target has its namesake stored alike. -/
theorem name_mem_leavingNames_iff (hf : f ∈ source.fields) :
    f.name ∈ ((compare source target).declareRenames renames).leavingNames ↔
      ¬∃ g ∈ target.fields, g.name = f.name ∧ f.sameStorage g = true := by
  rw [mem_leavingNames_iff hr]
  have hm : (compare source target).modifiedFields.map (·.source) =
      (compare source target).modifiedFields.map (·.target) := map_source_modified
  rw [hm, mem_modifiedFields_iff hs]
  constructor
  · rintro (h | ⟨f', hf', g', hg', hfn, hgn, hfalse⟩) ⟨g, hg, hgf, hsame⟩
    · exact (mem_missing_iff.1 h).2 (hgf ▸ List.mem_map_of_mem hg)
    · obtain rfl := List.inj_on_of_nodup_map hs hf' hf hfn
      obtain rfl := List.inj_on_of_nodup_map ht hg' hg (hgn.trans hgf.symm)
      rw [hsame] at hfalse
      cases hfalse
  · intro hnone
    by_cases hname : f.name ∈ target.fieldNames
    · obtain ⟨g, hg, hgf⟩ := List.mem_map.1 hname
      exact .inr ⟨f, hf, g, hg, rfl, hgf, by simpa using fun hsame => hnone ⟨g, hg, hgf, hsame⟩⟩
    · exact .inl (mem_missing_iff.2 ⟨List.mem_map_of_mem hf, hname⟩)

/-- A field comes unless the source has its namesake stored alike. -/
theorem name_mem_comingNames_iff (hg : g ∈ target.fields) :
    g.name ∈ ((compare source target).declareRenames renames).comingNames ↔
      ¬∃ f ∈ source.fields, f.name = g.name ∧ f.sameStorage g = true := by
  rw [mem_comingNames_iff hr, mem_modifiedFields_iff hs]
  constructor
  · rintro (h | ⟨f', hf', g', hg', hfn, hgn, hfalse⟩) ⟨f, hf, hfg, hsame⟩
    · exact (mem_missing_iff.1 h).2 (hfg ▸ List.mem_map_of_mem hf)
    · obtain rfl := List.inj_on_of_nodup_map hs hf' hf (hfn.trans hfg.symm)
      obtain rfl := List.inj_on_of_nodup_map ht hg' hg hgn
      rw [hsame] at hfalse
      cases hfalse
  · intro hnone
    by_cases hname : g.name ∈ source.fieldNames
    · obtain ⟨f, hf, hfg⟩ := List.mem_map.1 hname
      exact .inr ⟨f, hf, g, hg, hfg, rfl, by simpa using fun hsame => hnone ⟨f, hf, hfg, hsame⟩⟩
    · exact .inl (mem_missing_iff.2 ⟨List.mem_map_of_mem hg, hname⟩)

end

end EntityDiff

end Tablecraft
