import Tablecraft.Finalization.Referrers
import Tablecraft.Proofs.Model.Parts

namespace Tablecraft

namespace FieldType

theorem needsTransaction_iff {t : FieldType} :
    t.needsTransaction = true ↔ t = .varBinary ∨ t = .longVarBinary ∨ t = .blob := by
  cases t <;> simp [needsTransaction]

end FieldType

namespace Entity

open Finalization

variable {e e' : Entity} {f : Field} {name : String}

def KeyInRelation (e : Entity) : Prop :=
  ∃ r ∈ e.relations, ∃ name ∈ r.localFields, ∃ f ∈ e.fields, f.name = name ∧ f.primaryKey = true

theorem isForeignKeyField_iff : e.isForeignKeyField name = true ↔ ∃ r ∈ e.relations, name ∈ r.localFields := by
  simp [isForeignKeyField]

theorem keyInRelation_appendField_iff :
    (e.appendField f).KeyInRelation ↔ e.KeyInRelation ∨ f.primaryKey = true ∧
      e.isForeignKeyField f.name = true := by
  rw [isForeignKeyField_iff]
  constructor
  · rintro ⟨r, hr, name, hname, g, hg, rfl, hkey⟩
    rcases List.mem_append.1 hg with hg | hg
    · exact .inl ⟨r, hr, g.name, hname, g, hg, rfl, hkey⟩
    · obtain rfl := List.mem_singleton.1 hg
      exact .inr ⟨hkey, r, hr, hname⟩
  · rintro (⟨r, hr, name, hname, g, hg, hkey⟩ | ⟨hkey, r, hr, hname⟩)
    · exact ⟨r, hr, name, hname, g, List.mem_append_left _ hg, hkey⟩
    · exact ⟨r, hr, f.name, hname, _, List.mem_append_right _ (List.mem_singleton_self _), rfl, hkey⟩

theorem isPrimaryKeyOf_iff (hd : e.fieldNames.Nodup) :
    isPrimaryKeyOf e name = true ↔ ∃ f ∈ e.fields, f.name = name ∧ f.primaryKey = true := by
  simp only [← and_assoc, ← field?_eq_some_iff hd]
  unfold isPrimaryKeyOf
  cases e.field? name <;> simp

theorem keepsKeyInRelation_iff (hd : e.fieldNames.Nodup) : keepsKeyInRelation e = true ↔ e.KeyInRelation := by
  simp only [keepsKeyInRelation, List.any_eq_true, isPrimaryKeyOf_iff hd, KeyInRelation]

theorem containsForeignKey_addRelation (e : Entity) (r : Relation) :
    (e.addRelation r).containsForeignKey = (e.containsForeignKey || r.localFields.any (isPrimaryKeyOf e)) := rfl

theorem keyInRelation_addRelation_iff (r : Relation) :
    (e.addRelation r).KeyInRelation ↔
      e.KeyInRelation ∨ ∃ name ∈ r.localFields, ∃ f ∈ e.fields, f.name = name ∧ f.primaryKey = true := by
  constructor
  · rintro ⟨s, hs, name, hname, hfield⟩
    rcases List.mem_append.1 hs with hs | hs
    · exact .inl ⟨s, hs, name, hname, hfield⟩
    · obtain rfl := List.mem_singleton.1 hs
      exact .inr ⟨name, hname, hfield⟩
  · rintro (⟨s, hs, hkey⟩ | ⟨name, hname, hfield⟩)
    · exact ⟨s, List.mem_append_left _ hs, hkey⟩
    · exact ⟨_, List.mem_append_right _ (List.mem_singleton_self _), name, hname, hfield⟩

structure KnowsForeignKey (e : Entity) : Prop where
  distinct : e.fieldNames.Nodup
  flag : e.containsForeignKey = true ↔ e.KeyInRelation

theorem KnowsForeignKey.addField (h : e.KnowsForeignKey) (ha : e.addField f = .ok e') : e'.KnowsForeignKey := by
  refine ⟨nodup_addField h.distinct ha, ?_⟩
  obtain ⟨-, -, rfl⟩ := addField_eq_ok ha
  rw [keyInRelation_appendField_iff, ← h.flag, appendField, Bool.or_eq_true, Bool.and_eq_true]

theorem KnowsForeignKey.addRelation (h : e.KnowsForeignKey) (r : Relation) :
    (e.addRelation r).KnowsForeignKey := by
  refine ⟨h.distinct, ?_⟩
  rw [containsForeignKey_addRelation, keyInRelation_addRelation_iff, Bool.or_eq_true, h.flag]
  simp only [List.any_eq_true, isPrimaryKeyOf_iff h.distinct]

def KnowsTransaction (e : Entity) : Prop :=
  e.needsTransaction = true ↔ ∃ f ∈ e.fields, f.fieldType.needsTransaction = true

theorem KnowsTransaction.addField (h : e.KnowsTransaction) (ha : e.addField f = .ok e') :
    e'.KnowsTransaction := by
  obtain ⟨-, -, rfl⟩ := addField_eq_ok ha
  unfold KnowsTransaction at h ⊢
  simp only [appendField, Bool.or_eq_true, h, List.mem_append, List.mem_singleton, or_and_right, exists_or,
    exists_eq_left]
  rfl

inductive Part
  | field (f : Field)
  | relation (r : Relation)

def addPart (e : Entity) : Part → Except Fault Entity
  | .field f => e.addField f
  | .relation r => .ok (e.addRelation r)

theorem flags_addPart {part : Part} (hk : e.KnowsForeignKey) (ht : e.KnowsTransaction)
    (ha : e.addPart part = .ok e') :
    e'.KnowsForeignKey ∧ e'.KnowsTransaction := by
  cases part with
  | field f => exact ⟨hk.addField ha, ht.addField ha⟩
  | relation r =>
      obtain rfl := Except.ok.inj ha
      exact ⟨hk.addRelation r, ht⟩

structure Unbuilt (e : Entity) : Prop where
  fields : e.fields = []
  relations : e.relations = []
  containsForeignKey : e.containsForeignKey = false
  needsTransaction : e.needsTransaction = false

theorem Unbuilt.knowsForeignKey (h : e.Unbuilt) : e.KnowsForeignKey := by
  refine ⟨by simp [fieldNames, h.fields], ?_⟩
  simp [KeyInRelation, h.relations, h.containsForeignKey]

theorem Unbuilt.knowsTransaction (h : e.Unbuilt) : e.KnowsTransaction := by
  simp [KnowsTransaction, h.fields, h.needsTransaction]

theorem flags_of_addParts {parts : List Part} (h : e.Unbuilt) (hrun : parts.foldlM addPart e = .ok e') :
    e'.KnowsForeignKey ∧ e'.KnowsTransaction :=
  Edit.foldlM_keeps (P := fun e => e.KnowsForeignKey ∧ e.KnowsTransaction)
    (fun _ _ _ hs ht => flags_addPart hs.1 hs.2 ht) ⟨h.knowsForeignKey, h.knowsTransaction⟩ hrun

end Entity

end Tablecraft
