import Mathlib.Data.List.Nodup
import Tablecraft.Model.Entity
import Tablecraft.Proofs.EditRuns

namespace Tablecraft.Entity

variable {e e' : Entity} {f : Field} {i j : Index} {name : String}

def fieldNames (e : Entity) : List String := e.fields.map (·.name)

theorem hasField_iff : e.hasField name = true ↔ name ∈ e.fieldNames := by
  simp [hasField, field?, fieldNames, List.find?_isSome]

theorem exists_field? (h : e.hasField name = true) : ∃ f, e.field? name = some f :=
  Option.isSome_iff_exists.1 h

theorem hasField_of_field? (h : e.field? name = some f) : e.hasField name = true := by
  simp [hasField, h]

theorem name_of_field? (h : e.field? name = some f) : f.name = name := by
  simpa using List.find?_some h

theorem mem_of_field? (h : e.field? name = some f) : f ∈ e.fields := List.mem_of_find?_eq_some h

/-- Among fields of distinct names each is the one that its name leads to. -/
theorem field?_eq_some_iff (hd : e.fieldNames.Nodup) :
    e.field? name = some f ↔ f ∈ e.fields ∧ f.name = name := by
  constructor
  · intro h
    exact ⟨mem_of_field? h, name_of_field? h⟩
  · rintro ⟨hf, rfl⟩
    obtain ⟨g, hg⟩ := exists_field? (hasField_iff.2 (List.mem_map_of_mem hf))
    have he : g = f := List.inj_on_of_nodup_map hd (mem_of_field? hg) hf (name_of_field? hg)
    rw [hg, he]

theorem addField_eq_ok (h : e.addField f = .ok e') :
    e.hasField f.name = false ∧ (f.isInheritance = true → e.inheritanceField? = none) ∧
      e' = e.appendField f := by
  unfold addField at h
  split at h
  · cases h
  · rename_i hn
    split at h
    · cases h
    · rename_i hi
      refine ⟨by simpa using hn, fun hf => by simpa [hf] using hi, ?_⟩
      cases h
      rfl

theorem field?_appendField_self (hn : e.hasField f.name = false) :
    (e.appendField f).field? f.name = some { f with position := e.fields.length + 1, entity := some e.name } := by
  have hnone : e.field? f.name = none := by simpa [hasField] using hn
  unfold field? at hnone
  simp [field?, appendField, List.find?_append, hnone]

theorem nodup_appendField (hd : e.fieldNames.Nodup) (hn : e.hasField f.name = false) :
    (e.appendField f).fieldNames.Nodup := by
  have hm : f.name ∉ e.fieldNames := fun hm => by simp [hasField_iff.2 hm] at hn
  have ha : (e.appendField f).fieldNames = e.fieldNames ++ [f.name] := by
    simp [fieldNames, appendField]
  rw [ha]
  exact List.nodup_append'.2 ⟨hd, List.nodup_singleton _, by simpa using hm⟩

theorem nodup_addField (hd : e.fieldNames.Nodup) (h : e.addField f = .ok e') : e'.fieldNames.Nodup := by
  obtain ⟨hn, _, rfl⟩ := addField_eq_ok h
  exact nodup_appendField hd hn

def Numbered (e : Entity) : Prop := e.fields.map (·.position) = List.range' 1 e.fields.length

theorem Numbered.appendField (h : e.Numbered) (f : Field) : (e.appendField f).Numbered := by
  have hl : (e.appendField f).fields.length = e.fields.length + 1 := by simp [Entity.appendField]
  rw [Numbered, hl, List.range'_1_concat, ← h]
  simp [Entity.appendField, Nat.add_comm]

theorem numbered_removeField? {name : String} {rest : Entity} (h : e.removeField? name = some (f, rest)) :
    rest.Numbered := by
  obtain ⟨⟨g, fields⟩, _, hr⟩ := Option.map_eq_some_iff.1 h
  obtain ⟨_, rfl⟩ := Prod.mk.inj hr
  refine List.ext_getElem (by simp [renumber]) fun i hi hi' => ?_
  simp [renumber, Nat.add_comm]

/-- The index that becomes a part of the entity is the one that was given, under the entity's table and limit.
It has members, all of them fields, and its name is free. -/
theorem admitIndex_eq_ok (h : e.admitIndex i = .ok j) :
    j = { i with table := some e.table, nameLimit := e.nameLimit } ∧ i.members ≠ [] ∧
      (∀ m ∈ i.members, e.hasField m.name = true) ∧ e.hasIndex j.name = false := by
  unfold admitIndex at h
  dsimp only at h
  split at h
  · cases h
  · rename_i hm
    split at h
    · cases h
    · rename_i hall
      split at h
      · cases h
      · rename_i hn
        obtain rfl := Except.ok.inj h
        exact ⟨rfl, by simpa using hm, by simpa using List.find?_eq_none.1 hall, eq_false_of_ne_true hn⟩

theorem addIndex_eq_ok (h : e.addIndex i = .ok e') :
    ∃ j, e.admitIndex i = .ok j ∧ e' = { e with indices := e.indices ++ [j] } := by
  obtain ⟨j, hj, rfl⟩ := Edit.except_map_eq_ok_iff.1 h
  exact ⟨j, hj, rfl⟩

theorem addUnique_eq_ok (h : e.addUnique i = .ok e') :
    ∃ j, e.admitIndex i = .ok j ∧ e' = { e with uniques := e.uniques ++ [j] } := by
  obtain ⟨j, hj, rfl⟩ := Edit.except_map_eq_ok_iff.1 h
  exact ⟨j, hj, rfl⟩

theorem addBehavior_eq_ok {b : Behavior} (h : e.addBehavior b = .ok e') :
    b.clashes e.behaviors = false ∧ e' = e.attachBehavior b := by
  unfold addBehavior at h
  split at h
  · cases h
  · exact ⟨eq_false_of_ne_true ‹_›, (Except.ok.inj h).symm⟩

end Tablecraft.Entity
