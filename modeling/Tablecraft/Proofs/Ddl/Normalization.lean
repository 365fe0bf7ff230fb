import Tablecraft.Ddl.Creation
import Tablecraft.Proofs.Model.Parts
import Tablecraft.Proofs.Model.Related

namespace Tablecraft

open List Edit

variable {p : Platform} {e e' e'' e₀ : Entity} {db db' n : Database} {f g : Field}
  {script : Script}

def Field.Resized (f g : Field) : Prop := g = { f with domain := { f.domain with size := g.domain.size } }

theorem Field.Resized.refl (f : Field) : f.Resized f := rfl

theorem Field.Resized.trans {h : Field} (hg : f.Resized g) (hh : g.Resized h) : f.Resized h :=
  Eq.trans hh (by rw [hg])

theorem Field.Resized.column_eq (h : f.Resized g) : g.column = f.column := by
  rw [h]
  rfl

structure Entity.Normalized (e e' : Entity) : Prop where
  frame : e' = { e with fields := e'.fields, indices := e'.indices, uniques := e'.uniques }
  fields : Forall₂ Field.Resized e.fields e'.fields

namespace Entity.Normalized

theorem refl (e : Entity) : e.Normalized e := ⟨rfl, forall₂_same.2 fun f _ => .refl f⟩

theorem trans (h : e.Normalized e') (h' : e'.Normalized e'') : e.Normalized e'' where
  frame := h'.frame.trans (by rw [h.frame])
  fields := FirstMatch.forall₂_trans (fun _ _ _ hf hg => hf.trans hg) h.fields h'.fields

theorem sameNames (h : e.Normalized e') : e.SameNames e' := ⟨by rw [h.frame], by rw [h.frame]⟩

theorem sqlEligible_eq (h : e.Normalized e') : e'.sqlEligible = e.sqlEligible := by
  rw [h.frame]
  rfl

theorem tableName_eq (h : e.Normalized e') : p.tableName e' = p.tableName e := by
  rw [h.frame]
  rfl

theorem columns_eq (h : e.Normalized e') : e'.fields.map Field.column = e.fields.map Field.column :=
  FirstMatch.map_eq_of_forall₂ h.fields fun _ _ hf => hf.column_eq

theorem fieldNames_eq (h : e.Normalized e') : e'.fieldNames = e.fieldNames :=
  FirstMatch.map_eq_of_forall₂ h.fields fun f g hf => by rw [hf]

theorem primaryKeyNames_eq (h : e.Normalized e') : e'.primaryKeyNames = e.primaryKeyNames := by
  have hk : Forall₂ Field.Resized e.primaryKey e'.primaryKey :=
    List.rel_filter (fun f g hf => by rw [hf]) h.fields
  exact FirstMatch.map_eq_of_forall₂ hk fun f g hf => by rw [hf]

theorem hasField_eq (h : e.Normalized e') : e'.hasField = e.hasField := by
  funext name
  exact Bool.eq_iff_iff.2 (by rw [hasField_iff, hasField_iff, h.fieldNames_eq])

end Entity.Normalized

theorem Index.resetSizes_resetSizes (i : Index) : i.resetSizes.resetSizes = i.resetSizes := by
  simp [resetSizes]

namespace Database

def Normalized : Database → Database → Prop := Related Entity.Normalized

theorem Normalized.refl (db : Database) : db.Normalized db := Related.refl Entity.Normalized.refl db

theorem Normalized.entity?' {name : String} (h : db.Normalized n) (he : n.entity? name = some e') :
    ∃ e, db.entity? name = some e ∧ e.Normalized e' :=
  Related.entity?' (fun _ _ hx => hx.sameNames) h he

/-- Which entities have tables does not change. -/
theorem Normalized.eligibleNames_eq (h : db.Normalized n) :
    n.entitiesForSql.map (·.name) = db.entitiesForSql.map (·.name) := by
  have hf : Forall₂ Entity.Normalized db.entitiesForSql n.entitiesForSql :=
    List.rel_filter (fun _ _ hx => by simp [hx.sqlEligible_eq]) h.entities
  exact FirstMatch.map_eq_of_forall₂ hf fun _ _ hx => hx.sameNames.1

end Database

namespace Platform

theorem resized_dropDefaultSize (p : Platform) (f : Field) : f.Resized (p.dropDefaultSize f) := by
  unfold dropDefaultSize
  split <;> rfl

theorem normalized_dropUnusedSizes (p : Platform) (e : Entity) : e.Normalized (p.dropUnusedSizes e) := by
  have hf : Forall₂ Field.Resized e.fields (e.fields.map p.dropDefaultSize) :=
    List.forall₂_map_right_iff.2 (forall₂_same.2 fun f _ => p.resized_dropDefaultSize f)
  unfold dropUnusedSizes
  split
  · exact ⟨rfl, hf⟩
  · exact ⟨rfl, hf⟩

section

variable {R : Entity → Entity → Prop}
    (hu : ∀ e₀ e e' names, R e₀ e → e.addUnique (.uniqueOfNames names) = .ok e' → R e₀ e')
  (hd : ∀ e₀ e, R e₀ e → R e₀ (p.dropUnusedSizes e))

include hu

theorem keeps_addMissingUnique (target : String × List String) :
    Keeps (db.Related R) (addMissingUnique target) := by
  refine Database.Related.keeps_editEntity target.1 fun e₀ => .attempt fun e e' h ha => ?_
  split at ha
  · cases ha
    exact h
  · exact hu e₀ e e' _ h ha

theorem keeps_addMissingUniques (targets : List (String × List String)) :
    Keeps (db.Related R) (addMissingUniques targets) := by
  induction targets with
  | nil => exact .pure
  | cons target rest ih => exact .bind (keeps_addMissingUnique hu target) fun _ => ih

include hd

theorem keeps_normalizeEntity (name : String) : Keeps (db.Related R) (p.normalizeEntity name) := by
  intro s hs
  cases he : s.entity? name with
  | none => simpa [normalizeEntity, Edit.after, he] using hs
  | some e =>
      have ht := keeps_addMissingUniques hu (e.relations.filterMap (missingUnique? s)) s hs
      cases ha : addMissingUniques (e.relations.filterMap (missingUnique? s)) s with
      | error fault u => simpa [normalizeEntity, Edit.after, he, ha] using ht
      | ok a u =>
          rw [after_of_ok ha] at ht
          have h := Database.Related.modifyEntity ht name fun x y h => hd x y h
          simpa [normalizeEntity, Edit.after, he, ha] using h

theorem keeps_normalizeEntities (names : List String) : Keeps (db.Related R) (p.normalizeEntities names) := by
  induction names with
  | nil => exact .pure
  | cons name rest ih => exact .bind (keeps_normalizeEntity hu hd name) fun _ => ih

theorem related_of_normalizeEntities (hR : ∀ e, R e e) {names : List String}
    (h : (p.normalizeEntities names).result db = .ok n) : db.Related R n :=
  (keeps_normalizeEntities hu hd names).of_ok (result_eq_ok_iff.1 h) (.refl hR db)

end

theorem normalized_of_normalizeEntities {names : List String}
    (h : (p.normalizeEntities names).result db = .ok n) : db.Normalized n := by
  refine related_of_normalizeEntities (fun e₀ e e' names h ha => ?_) (fun e₀ e h => ?_) Entity.Normalized.refl h
  · obtain ⟨j, _, rfl⟩ := Entity.addUnique_eq_ok ha
    exact h.trans { Entity.Normalized.refl e with frame := rfl }
  · exact h.trans (p.normalized_dropUnusedSizes e)

theorem missingUnique?_eq_some_iff {r : Relation} {target : String × List String} :
    missingUnique? db r = some target ↔ r.skipSql = false ∧ r.hasReferences = true ∧
      ∃ foreign, db.entity? r.foreignEntity = some foreign ∧ foreign.isUniqueOn r.foreignFields = false ∧
        r.foreignFields.all foreign.hasField = true ∧ target = (foreign.name, r.foreignFields) := by
  unfold missingUnique?
  cases r.skipSql with
  | true => simp
  | false => cases r.hasReferences with
    | false => simp
    | true => cases db.entity? r.foreignEntity with
      | none => simp
      | some foreign => simp [and_assoc, eq_comm (a := target)]

theorem createDatabase_eq_ok (h : p.createDatabase db = .ok script) :
    ∃ n tables, (p.normalizeEntities (db.entitiesForSql.map (·.name))).result db = .ok n ∧
      ((db.entitiesForSql.map (·.name)).filterMap n.entity?).mapM (p.createEntity n) = .ok tables ∧
      script = p.opening ++ tables.flatten ++
        ((db.entitiesForSql.map (·.name)).filterMap n.entity?).flatMap (p.addForeignKeys n) ++ p.closing := by
  obtain ⟨n, hn, h⟩ := except_bind_eq_ok_iff.1 h
  obtain ⟨tables, ht, h⟩ := except_bind_eq_ok_iff.1 h
  exact ⟨n, tables, hn, ht, (Except.ok.inj h).symm⟩

/-- Normalization finds nothing to do for the entity: its relations point at unique fields, and it
has no sizes that the dialect ignores or assumes anyway. -/
structure NormalEntity (p : Platform) (db : Database) (e : Entity) : Prop where
  targets : ∀ r ∈ e.relations, r.skipSql = false → r.references ≠ [] →
    ∀ foreign ∈ db.entity? r.foreignEntity,
      (∀ name ∈ r.foreignFields, foreign.hasField name = true) → foreign.isUniqueOn r.foreignFields = true
  indexSizes : p.supportsIndexSize = false → ∀ i ∈ e.allIndices, ∀ m ∈ i.members, m.size = none
  fieldSizes : ∀ f ∈ e.fields, f.domain.size ≠ none → f.domain.scale = none →
    f.domain.size ≠ p.defaultTypeSize? f.fieldType

instance (p : Platform) (db : Database) (e : Entity) : Decidable (p.NormalEntity db e) :=
  decidable_of_iff (_ ∧ _ ∧ _) ⟨fun h => ⟨h.1, h.2.1, h.2.2⟩, fun h => ⟨h.targets, h.indexSizes, h.fieldSizes⟩⟩

def Normal (p : Platform) (db : Database) : Prop :=
  ∀ name ∈ db.entitiesForSql.map (·.name), ∀ e ∈ db.entity? name, p.NormalEntity db e

instance (p : Platform) (db : Database) : Decidable (p.Normal db) :=
  inferInstanceAs (Decidable (∀ name ∈ _, ∀ e ∈ db.entity? name, p.NormalEntity db e))

theorem missingUnique?_eq_none (h : p.NormalEntity db e) {r : Relation} (hr : r ∈ e.relations) :
    missingUnique? db r = none := by
  unfold missingUnique?
  split
  · rfl
  · rename_i hc
    obtain ⟨hs, hn⟩ : r.skipSql = false ∧ r.references ≠ [] := by
      simpa [Relation.hasReferences] using hc
    cases hf : db.entity? r.foreignEntity with
    | none => rfl
    | some foreign =>
        have hu := h.targets r hr hs hn foreign hf
        rw [Option.bind_some, if_neg]
        intro hc
        obtain ⟨hc, hfields⟩ := Bool.and_eq_true_iff.1 hc
        simp [hu (List.all_eq_true.1 hfields)] at hc

theorem resetSizes_eq_self {i : Index} (h : ∀ m ∈ i.members, m.size = none) : i.resetSizes = i := by
  have hm : i.members.map (fun m => { m with size := none }) = i.members := by
    refine (List.map_congr_left fun m hm => ?_).trans (List.map_id _)
    rw [← h m hm]
    rfl
  rw [Index.resetSizes, hm]

theorem dropDefaultSize_eq_self (h : f.domain.size ≠ none → f.domain.scale = none →
    f.domain.size ≠ p.defaultTypeSize? f.fieldType) : p.dropDefaultSize f = f := by
  unfold dropDefaultSize
  split
  · rename_i hc
    obtain ⟨⟨hs, hn⟩, hd⟩ : (f.domain.size.isSome = true ∧ f.domain.scale = none) ∧
        f.domain.size = p.defaultTypeSize? f.fieldType := by simpa using hc
    exact absurd hd (h (Option.isSome_iff_ne_none.1 hs) hn)
  · rfl

theorem dropUnusedSizes_eq_self (h : p.NormalEntity db e) : p.dropUnusedSizes e = e := by
  have hf : e.fields.map p.dropDefaultSize = e.fields :=
    (List.map_congr_left fun f hf => dropDefaultSize_eq_self (h.fieldSizes f hf)).trans (List.map_id _)
  unfold dropUnusedSizes
  split
  · dsimp only
    rw [hf]
  · rename_i hs
    have hi := h.indexSizes (by simpa using hs)
    have hindices : e.indices.map Index.resetSizes = e.indices :=
      (List.map_congr_left fun i hm => resetSizes_eq_self (hi i (List.mem_append_left _ hm))).trans
        (List.map_id _)
    have huniques : e.uniques.map Index.resetSizes = e.uniques :=
      (List.map_congr_left fun i hm => resetSizes_eq_self (hi i (List.mem_append_right _ hm))).trans
        (List.map_id _)
    dsimp only
    rw [hf, hindices, huniques]

theorem normalizeEntity_eq_self {name : String}
    (h : ∀ e ∈ db.entity? name, p.NormalEntity db e) :
    p.normalizeEntity name db = .ok () db := by
  unfold normalizeEntity
  cases he : db.entity? name with
  | none => rfl
  | some e =>
      have hm : e.relations.filterMap (missingUnique? db) = [] :=
        List.filterMap_eq_nil_iff.2 fun r hr => missingUnique?_eq_none (h e he) hr
      have hd : db.modifyEntity name p.dropUnusedSizes = db := by
        rw [Database.modifyEntity, FirstMatch.modify_eq_self_of_find? he (dropUnusedSizes_eq_self (h e he))]
      simp only [hm]
      exact congrArg (EStateM.Result.ok ()) hd

theorem normalizeEntities_eq_self {names : List String}
    (h : ∀ name ∈ names, ∀ e ∈ db.entity? name, p.NormalEntity db e) :
    p.normalizeEntities names db = .ok () db := by
  induction names with
  | nil => rfl
  | cons name rest ih =>
      obtain ⟨hn, hr⟩ := List.forall_mem_cons.1 h
      exact bind_eq_ok_iff.2 ⟨(), db, normalizeEntity_eq_self hn, ih hr⟩

end Platform

end Tablecraft
