import Tablecraft.Proofs.Model.Extension

namespace Tablecraft

open List Edit

variable {tables : String → Option String} {e e' e₀ : Entity}

namespace Entity.Extends

theorem setNameLimit (e : Entity) (limit : Nat) : e.Extends tables (e.setNameLimit limit) where
  frame := rfl
  fields := .refl Field.Kept.refl _
  distinct := id
  relations := List.forall₂_map_right_iff.2 (forall₂_same.2 fun _ _ => ⟨rfl, fun _ => rfl, .inl rfl⟩)
  indices := .of_forall₂ (List.forall₂_map_right_iff.2 (forall₂_same.2 fun _ _ => rfl))
  uniques := .of_forall₂ (List.forall₂_map_right_iff.2 (forall₂_same.2 fun _ _ => rfl))

theorem addIndex {i : Index} (h : e.addIndex i = .ok e') : e.Extends tables e' := by
  obtain ⟨j, _, rfl⟩ := addIndex_eq_ok h
  exact { refl e with frame := rfl, indices := (Grows.refl Index.Kept.refl _).append trivial }

theorem addUnique {i : Index} (h : e.addUnique i = .ok e') : e.Extends tables e' := by
  obtain ⟨j, _, rfl⟩ := addUnique_eq_ok h
  exact { refl e with frame := rfl, uniques := (Grows.refl Index.Kept.refl _).append trivial }

theorem addField {f : Field} (hf : f.Plain) (h : e.addField f = .ok e') : e.Extends tables e' := by
  obtain ⟨hn, _, rfl⟩ := addField_eq_ok h
  refine { refl e with frame := rfl, fields := ?_, distinct := fun hd => nodup_appendField hd hn }
  refine (Grows.refl Field.Kept.refl _).append ?_
  rw [hf]
  rfl

theorem keepFields {fields : List Field} (h : Forall₂ Field.Kept e.fields fields) :
    e.Extends tables { e with fields } := by
  have hn : Entity.fieldNames { e with fields } = e.fieldNames :=
    FirstMatch.map_eq_of_forall₂ h fun _ _ hk => hk.name_eq
  exact { refl e with frame := rfl, fields := .of_forall₂ h, distinct := fun hd => hn ▸ hd }

theorem modifyRelationAt {k : Nat} {f : Relation → Relation} (h : e₀.Extends tables e)
    (hf : ∀ r s, e₀.relations[k]? = some r → r.Kept tables s → r.Kept tables (f s)) :
    e₀.Extends tables (e.modifyRelationAt k f) :=
  { h with
    frame := by
      rw [h.frame]
      rfl
    relations := FirstMatch.forall₂_listModify h.relations k f fun r s hr _ => hf r s hr }

end Entity.Extends

end Tablecraft
