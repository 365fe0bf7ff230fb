import Tablecraft.Ddl.Migration
import Tablecraft.Proofs.Ddl.Unchanged
import Tablecraft.Proofs.Finalization.Passes

namespace Tablecraft

open List Edit

open Compare

variable {registry : Registry} {p : Platform} {db d : Database} {e : Entity}

namespace Compare

variable {α : Type} {name : α → String} {same : α → α → Bool} {xs : List α}

theorem missing_self (name : α → String) (xs : List α) : missing name xs xs = [] := by
  refine List.eq_nil_iff_forall_not_mem.2 fun n hn => ?_
  obtain ⟨hmem, hnot⟩ := mem_missing_iff.1 hn
  exact hnot hmem

theorem modified_self (hd : (xs.map name).Nodup) (hs : ∀ x, same x x = true) : modified name same xs xs = [] := by
  refine List.eq_nil_iff_forall_not_mem.2 fun pair hp => ?_
  obtain ⟨x, hx, y, hy, hne, -⟩ := mem_modified_iff.1 hp
  -- distinct names lead back to the element itself
  obtain rfl : x = y := Option.some.inj ((find?_of_nodup hd hx).symm.trans hy)
  rw [hs x] at hne
  cases hne

end Compare

theorem DefaultValue.agreesOption_self (v : Option DefaultValue) : agreesOption v v = true := by
  cases v with
  | none => rfl
  | some v => exact agrees_refl v

theorem Field.sameStorage_self (f : Field) : f.sameStorage f = true := by
  simp [sameStorage, DefaultValue.agreesOption_self]

theorem Index.sameShape_self (i : Index) : i.sameShape i = true := by simp [sameShape]

theorem Relation.sameShape_self (r : Relation) : r.sameShape r = true := by simp [sameShape]

theorem EntityDiff.compare_self (hd : e.DistinctParts) : compare e e = .ofName e.name := by
  simp only [compare, ofName, missing_self, modified_self hd.fields Field.sameStorage_self,
    modified_self hd.indices Index.sameShape_self, modified_self hd.relations Relation.sameShape_self,
    bne_self_eq_false]

namespace DatabaseDiff

theorem unknownTo_self (db : Database) : unknownTo db db = [] := by
  refine List.filter_eq_nil_iff.2 fun name hn => ?_
  obtain ⟨e, he, rfl⟩ := List.mem_map.1 hn
  have hfound : db.hasEntity e.name = true :=
    List.find?_isSome.2 ⟨e, (List.mem_filter.1 he).1, e.isNamed_name⟩
  simp [hfound]

theorem changesOf?_self (ha : db.Addressed) (he : e ∈ db.entities) (hd : e.DistinctParts) :
    changesOf? db e = none := by
  simp only [changesOf?, ha.entity?_eq he, EntityDiff.compare_self hd]
  rfl

theorem compare_self (ha : db.Addressed) (hd : ∀ e ∈ db.entities, e.DistinctParts) :
    compare db db = { source := db, target := db } := by
  have hmodified : db.entitiesForSql.filterMap (changesOf? db) = [] := by
    refine List.filterMap_eq_nil_iff.2 fun e he => ?_
    have hmem : e ∈ db.entities := (List.mem_filter.1 he).1
    exact changesOf?_self ha hmem (hd e hmem)
  rw [compare, unknownTo_self, hmodified]

end DatabaseDiff

/-- A difference that records nothing needs no statement, nor what scripts start and end with. -/
theorem Platform.migrationText_of_nothing (p : Platform) (source target : Database) :
    p.migrationText { source, target } = .ok "" := by
  have hscript : p.migrateDatabase { source, target } = .ok [] := rfl
  rw [migrationText, hscript]
  rfl

/-- From a finalized database to itself there is nothing to do. -/
theorem migrate_self {doc : SchemaDocument} (hr : registry.Respects Database.Named)
    (hl : LoadedFrom registry doc db) (h : (Database.finalize registry p).result db = .ok d)
    (hd : ∀ e ∈ d.entities, (e.allIndices.map (·.name)).Nodup ∧ (e.relations.map (·.name)).Nodup) :
    (DatabaseDiff.compare d d).isEmpty = true ∧ p.migrationText (.compare d d) = .ok "" := by
  have hn : d.Named := hl.fresh.named.of_finalize hr h
  have hparts : ∀ e ∈ d.entities, e.DistinctParts := fun e he =>
    ⟨hn.fieldNames e he, (hd e he).1, (hd e he).2⟩
  rw [DatabaseDiff.compare_self hn.addressed hparts]
  exact ⟨rfl, p.migrationText_of_nothing d d⟩

theorem migrate_self_library : ∃ db d, LoadedFrom .builtins libraryDocument db ∧
    (Database.finalize .builtins { dialect := .mysql }).result db = .ok d ∧
      (∀ e ∈ d.entities, (e.allIndices.map (·.name)).Nodup ∧ (e.relations.map (·.name)).Nodup) ∧
      (DatabaseDiff.compare d d).isEmpty = true ∧
      Platform.migrationText { dialect := .mysql } (.compare d d) = .ok "" := by
  have hf : (libraryDocument.finalized? { dialect := .mysql }).any (fun d => decide (
      ∀ e ∈ d.entities, (e.allIndices.map (·.name)).Nodup ∧ (e.relations.map (·.name)).Nodup)) = true := by
    decide +kernel
  obtain ⟨d, hf, hd⟩ := (Option.any_eq_true _ _).1 hf
  obtain ⟨db, hl, h⟩ := SchemaDocument.loadedFrom_of_finalized? hf
  have hd := of_decide_eq_true hd
  exact ⟨db, d, hl, h, hd, migrate_self Registry.additive_builtins.respects_named hl h hd⟩

end Tablecraft
