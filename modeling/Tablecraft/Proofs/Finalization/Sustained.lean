import Tablecraft.Proofs.Finalization.Extension
import Tablecraft.Proofs.Finalization.Registration
import Tablecraft.Proofs.Replay

namespace Tablecraft

open List Edit

variable {limit : Nat} {tables : String → Option String} {e e' e'' : Entity} {db db' : Database}

structure Field.Held (f g : Field) : Prop where
  name : g.name = f.name
  primaryKey : g.primaryKey = f.primaryKey
  unique : g.unique = f.unique
  autoIncrement : g.autoIncrement = f.autoIncrement
  mark : f.implementationDetail = true → g.implementationDetail = true

def Field.Ordinary (f : Field) : Prop := f.primaryKey = false ∧ f.unique = false

theorem Field.Held.refl (f : Field) : f.Held f := ⟨rfl, rfl, rfl, rfl, id⟩

theorem Field.Held.trans {f g h : Field} (hg : f.Held g) (hh : g.Held h) : f.Held h :=
  ⟨hh.name.trans hg.name, hh.primaryKey.trans hg.primaryKey, hh.unique.trans hg.unique,
    hh.autoIncrement.trans hg.autoIncrement, hh.mark ∘ hg.mark⟩

theorem Field.Ordinary.of_held {f g : Field} (hf : f.Ordinary) (h : f.Held g) : g.Ordinary :=
  ⟨h.primaryKey.trans hf.1, h.unique.trans hf.2⟩

theorem Field.Plain.ordinary {f : Field} (h : f.Plain) : f.Ordinary := by
  rw [h]
  exact ⟨rfl, rfl⟩

def Index.SameMembers (i j : Index) : Prop := j.memberNames = i.memberNames

theorem Index.SameMembers.refl (i : Index) : i.SameMembers i := rfl

structure Entity.Limited (limit : Nat) (e : Entity) : Prop where
  entity : e.nameLimit = limit
  indices : ∀ i ∈ e.indices, i.nameLimit = limit
  uniques : ∀ i ∈ e.uniques, i.nameLimit = limit
  relations : ∀ r ∈ e.relations, r.nameLimit = limit

structure Entity.Sustained (limit : Nat) (tables : String → Option String) (e e' : Entity) : Prop where
  sameNames : e.SameNames e'
  fullTable : e'.fullTable = e.fullTable
  behaviors : e'.behaviors = e.behaviors
  heavyIndexing : e'.heavyIndexing = e.heavyIndexing
  vendor : e'.vendor = e.vendor
  idMethod : e'.idMethod = .native → e.idMethod = .native
  fields : Grows Field.Held Field.Ordinary e.fields e'.fields
  distinct : e.fieldNames.Nodup → e'.fieldNames.Nodup
  relations : Forall₂ (Relation.Kept tables) e.relations e'.relations
  indices : Grows Index.SameMembers (fun _ => True) e.indices e'.indices
  uniques : Grows Index.SameMembers (fun _ => True) e.uniques e'.uniques
  limited : e.Limited limit → e'.Limited limit

/-- Fields that keep their names and keys, and further ones that are no keys, make no difference to a key. -/
theorem Grows.isPrimaryKeyOf_eq {R : Field → Field → Prop} {A : Field → Prop} (h : Grows R A e.fields e'.fields)
    (hR : ∀ f g, R f g → g.name = f.name ∧ g.primaryKey = f.primaryKey) (hA : ∀ f, A f → f.primaryKey = false)
    (name : String) : Finalization.isPrimaryKeyOf e' name = Finalization.isPrimaryKeyOf e name := by
  unfold Finalization.isPrimaryKeyOf
  have hp (f g : Field) (hf : R f g) : (f.name == name) = (g.name == name) := by rw [(hR f g hf).1]
  cases hf' : e'.field? name with
  | none =>
      cases hf : e.field? name with
      | none => rfl
      | some f =>
          obtain ⟨g, hg, _⟩ := h.exists_of_find? hp hf
          simp [Entity.field?, hg] at hf'
  | some g =>
      rcases h.of_find? hp hf' with ⟨f, hf, hfg⟩ | ⟨hf, hg⟩
      · rw [Entity.field?, hf]
        exact (hR f g hfg).2
      · rw [Entity.field?, hf]
        exact hA g hg

namespace Entity.Sustained

theorem refl (e : Entity) : e.Sustained limit tables e where
  sameNames := ⟨rfl, rfl⟩
  fullTable := rfl
  behaviors := rfl
  heavyIndexing := rfl
  vendor := rfl
  idMethod := id
  fields := .refl Field.Held.refl _
  distinct := id
  relations := forall₂_same.2 fun r _ => .refl r
  indices := .refl Index.SameMembers.refl _
  uniques := .refl Index.SameMembers.refl _
  limited := id

theorem trans (h : e.Sustained limit tables e') (h' : e'.Sustained limit tables e'') :
    e.Sustained limit tables e'' where
  sameNames := h.sameNames.trans h'.sameNames
  fullTable := h'.fullTable.trans h.fullTable
  behaviors := h'.behaviors.trans h.behaviors
  heavyIndexing := h'.heavyIndexing.trans h.heavyIndexing
  vendor := h'.vendor.trans h.vendor
  idMethod := h.idMethod ∘ h'.idMethod
  fields := h.fields.trans (fun _ _ _ => .trans) (fun _ _ => .of_held) h'.fields
  distinct := h'.distinct ∘ h.distinct
  relations := FirstMatch.forall₂_trans (fun _ _ _ hr hs => hr.trans hs) h.relations h'.relations
  indices := h.indices.trans (fun _ _ _ hi hj => Eq.trans hj hi) (fun _ _ _ _ => trivial) h'.indices
  uniques := h.uniques.trans (fun _ _ _ hi hj => Eq.trans hj hi) (fun _ _ _ _ => trivial) h'.uniques
  limited := h'.limited ∘ h.limited

theorem field? (h : e.Sustained limit tables e') {name : String} {f : Field} (hf : e.field? name = some f) :
    ∃ g, e'.field? name = some g ∧ f.Held g :=
  h.fields.exists_of_find? (fun x y hxy => by rw [hxy.name]) hf

theorem hasField (h : e.Sustained limit tables e') {name : String} (hf : e.hasField name = true) :
    e'.hasField name = true := by
  obtain ⟨f, hf⟩ := Entity.exists_field? hf
  obtain ⟨g, hg, _⟩ := h.field? hf
  exact Entity.hasField_of_field? hg

theorem primaryKeyNames_eq (h : e.Sustained limit tables e') : e'.primaryKeyNames = e.primaryKeyNames :=
  h.fields.map_filter_eq (fun _ _ hf => hf.primaryKey.symm) (fun _ hf => hf.1) fun _ _ hf => hf.name

theorem isPrimaryKeyOf_eq (h : e.Sustained limit tables e') (name : String) :
    Finalization.isPrimaryKeyOf e' name = Finalization.isPrimaryKeyOf e name :=
  h.fields.isPrimaryKeyOf_eq (fun _ _ hf => ⟨hf.name, hf.primaryKey⟩) (fun _ hf => hf.1) name

theorem hasAutoIncrement (h : e.Sustained limit tables e') (ha : e.hasAutoIncrement = true) :
    e'.hasAutoIncrement = true := by
  obtain ⟨f, hf⟩ := Option.isSome_iff_exists.1 ha
  obtain ⟨g, hg, _⟩ := h.fields.exists_of_find? (fun _ _ hf => hf.autoIncrement.symm) hf
  exact Option.isSome_iff_exists.2 ⟨g, hg⟩

theorem isUniqueOn (h : e.Sustained limit tables e') {names : List String} (hu : e.isUniqueOn names = true) :
    e'.isUniqueOn names = true := by
  simp only [Entity.isUniqueOn, Bool.or_eq_true, List.any_eq_true] at hu ⊢
  refine hu.imp (fun hk => ?_) ?_
  · rw [h.primaryKeyNames_eq, hk]
  · rintro ⟨u, hu, hm⟩
    obtain ⟨v, hv, huv⟩ := h.uniques.exists_of_mem hu
    exact ⟨v, hv, by rwa [huv]⟩

theorem isIndexed (h : e.Sustained limit tables e') {names : List String} (hi : e.isIndexed names = true) :
    e'.isIndexed names = true := by
  simp only [Entity.isIndexed, Entity.allIndices, Bool.and_eq_true, Bool.or_eq_true, List.any_append,
    List.any_eq_true] at hi ⊢
  refine ⟨hi.1, hi.2.imp (fun hk => ?_) (Or.imp ?_ ?_)⟩
  · rw [h.primaryKeyNames_eq, hk]
  · rintro ⟨i, hi, hc⟩
    obtain ⟨j, hj, hij⟩ := h.indices.exists_of_mem hi
    exact ⟨j, hj, by rwa [Index.coversPrefix, hij]⟩
  · rintro ⟨i, hi, hc⟩
    obtain ⟨j, hj, hij⟩ := h.uniques.exists_of_mem hi
    exact ⟨j, hj, by rwa [Index.coversPrefix, hij]⟩

theorem setNameLimit (e : Entity) : e.Sustained limit tables (e.setNameLimit limit) :=
  { (refl e : e.Sustained limit tables e) with
    relations := List.forall₂_map_right_iff.2 (forall₂_same.2 fun _ _ => ⟨rfl, fun _ => rfl, .inl rfl⟩)
    indices := .of_forall₂ (List.forall₂_map_right_iff.2 (forall₂_same.2 fun _ _ => rfl))
    uniques := .of_forall₂ (List.forall₂_map_right_iff.2 (forall₂_same.2 fun _ _ => rfl))
    limited := fun _ => ⟨rfl, by simp [Entity.setNameLimit], by simp [Entity.setNameLimit],
      by simp [Entity.setNameLimit]⟩ }

theorem addIndex {i : Index} (h : e.addIndex i = .ok e') : e.Sustained limit tables e' := by
  obtain ⟨j, hj, rfl⟩ := addIndex_eq_ok h
  refine { (refl e : e.Sustained limit tables e) with
    indices := (Grows.refl Index.SameMembers.refl _).append trivial
    limited := fun hl => { hl with indices := fun k hk => ?_ } }
  rcases List.mem_append.1 hk with hk | hk
  · exact hl.indices k hk
  · rw [List.mem_singleton.1 hk, (admitIndex_eq_ok hj).1]
    exact hl.entity

theorem addUnique {i : Index} (h : e.addUnique i = .ok e') : e.Sustained limit tables e' := by
  obtain ⟨j, hj, rfl⟩ := addUnique_eq_ok h
  refine { (refl e : e.Sustained limit tables e) with
    uniques := (Grows.refl Index.SameMembers.refl _).append trivial
    limited := fun hl => { hl with uniques := fun k hk => ?_ } }
  rcases List.mem_append.1 hk with hk | hk
  · exact hl.uniques k hk
  · rw [List.mem_singleton.1 hk, (admitIndex_eq_ok hj).1]
    exact hl.entity

theorem setIdMethod (e : Entity) : e.Sustained limit tables (e.setIdMethod .none) :=
  { (refl e : e.Sustained limit tables e) with
    idMethod := fun h => by simp [Entity.setIdMethod, Entity.idMethod] at h
    limited := fun hl => { hl with } }

theorem holdFields {fields : List Field} (h : Forall₂ Field.Held e.fields fields) :
    e.Sustained limit tables { e with fields } := by
  have hn : Entity.fieldNames { e with fields } = e.fieldNames :=
    FirstMatch.map_eq_of_forall₂ h fun _ _ hk => hk.name
  exact { (refl e : e.Sustained limit tables e) with
    fields := .of_forall₂ h
    distinct := fun hd => hn ▸ hd
    limited := fun hl => { hl with } }

theorem addField {f : Field} (hf : f.Plain) (h : e.addField f = .ok e') : e.Sustained limit tables e' := by
  obtain ⟨hn, _, rfl⟩ := addField_eq_ok h
  exact { (refl e : e.Sustained limit tables e) with
    fields := (Grows.refl Field.Held.refl _).append hf.ordinary
    distinct := fun hd => nodup_appendField hd hn
    limited := fun hl => { hl with } }

end Entity.Sustained

theorem Entity.absorbs_sustained (limit : Nat) (tables : String → Option String) :
    Entity.Absorbs limit tables (Entity.Sustained limit tables) where
  sameNames h := h.sameNames
  fullTable h := h.fullTable
  relations h := h.relations
  setNameLimit h := h.trans (.setNameLimit _)
  addIndex h ha := h.trans (.addIndex ha)
  addUnique h ha := h.trans (.addUnique ha)
  setIdMethod h := h.trans (.setIdMethod _)
  mark name h := by
    refine h.trans (.holdFields ?_)
    refine FirstMatch.forall₂_modify (forall₂_same.2 fun f _ => .refl f) _ _ fun f g h => ?_
    exact { h with mark := fun _ => rfl }
  addField hf h ha := h.trans (.addField hf ha)
  modifyRelationAt {e₀ e k f} h hf hlimit :=
    { h with
      relations := FirstMatch.forall₂_listModify h.relations k f fun r s hr _ => hf r s hr
      limited := fun hl => by
        have hl := h.limited hl
        refine ⟨hl.entity, hl.indices, hl.uniques, fun r hr => ?_⟩
        obtain ⟨s, hs, rfl | rfl⟩ := FirstMatch.mem_listModify hr
        · exact hl.relations r hs
        · rw [hlimit]
          exact hl.relations s hs }

theorem Entity.Informed.sustained (h : e.Informed e') : e.Sustained limit tables e' where
  sameNames := h.sameNames
  fullTable := by
    rw [h.frame]
    rfl
  behaviors := by rw [h.frame]
  heavyIndexing := by rw [h.frame]
  vendor := by rw [h.frame]
  idMethod hm := by
    rw [h.frame] at hm
    exact hm
  fields := .of_forall₂ (h.fields.imp fun f g hf => by
    rw [hf.frame]
    exact ⟨rfl, rfl, rfl, rfl, id⟩)
  distinct hd := h.fieldNames_eq ▸ hd
  relations := by
    rw [h.relations_eq]
    exact forall₂_same.2 fun r _ => .refl r
  indices := by
    rw [h.frame]
    exact .refl Index.SameMembers.refl _
  uniques := by
    rw [h.frame]
    exact .refl Index.SameMembers.refl _
  limited hl := by
    rw [h.frame]
    exact { hl with }

namespace Database

def Sustains (limit : Nat) (db : Database) : Database → Prop := db.Related (Entity.Sustained limit db.tableOf?)

namespace Sustains

theorem refl (limit : Nat) (db : Database) : db.Sustains limit db := Related.refl Entity.Sustained.refl db

theorem tableOf?_eq (h : db.Sustains limit db') : db'.tableOf? = db.tableOf? :=
  Related.tableOf?_eq (fun _ _ he => he.sameNames) (fun _ _ he => he.fullTable) h

theorem trans {db'' : Database} (h : db.Sustains limit db') (h' : db'.Sustains limit db'') :
    db.Sustains limit db'' := by
  unfold Sustains at h'
  rw [h.tableOf?_eq] at h'
  exact Related.trans (fun _ _ _ hx hy => hx.trans hy) h h'

theorem position?_eq (h : db.Sustains limit db') (name : String) : db'.position? name = db.position? name :=
  Related.position?_eq (fun _ _ he => he.sameNames) h name

theorem entityNames_eq (h : db.Sustains limit db') : db'.entityNames = db.entityNames :=
  entityNames_congr (h.entities.imp fun _ _ he => he.sameNames)

theorem heavyIndexing_eq (h : db.Sustains limit db') : db'.heavyIndexing = db.heavyIndexing := by rw [h.frame]

theorem entity?' (h : db.Sustains limit db') {name : String} (he : db'.entity? name = some e') :
    ∃ e, db.entity? name = some e ∧ e.Sustained limit db.tableOf? e' :=
  Related.entity?' (fun _ _ he => he.sameNames) h he

end Sustains

theorem Informed.sustains (h : db.Informed db') : db.Sustains limit db' where
  frame := h.frame
  entities := h.entities.imp fun _ _ he => he.sustained

end Database

end Tablecraft
