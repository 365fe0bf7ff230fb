import Mathlib.Data.List.Perm.Basic
import Tablecraft.Proofs.Model.Parts

namespace Tablecraft.Entity

variable {e e' : Entity} {i j : Index} {name : String}

def indexNames (e : Entity) : List String := e.allIndices.map Index.name

theorem mem_indexNames_iff : name ∈ e.indexNames ↔ e.hasIndex name = true := by
  simp [indexNames, hasIndex]

theorem perm_addIndex (h : e.addIndex i = .ok e') :
    ∃ j, e.admitIndex i = .ok j ∧ e'.allIndices.Perm (j :: e.allIndices) := by
  obtain ⟨j, hj, rfl⟩ := addIndex_eq_ok h
  refine ⟨j, hj, ?_⟩
  simp only [allIndices, List.append_assoc, List.singleton_append]
  exact List.perm_middle

theorem perm_addUnique (h : e.addUnique i = .ok e') :
    ∃ j, e.admitIndex i = .ok j ∧ e'.allIndices.Perm (j :: e.allIndices) := by
  obtain ⟨j, hj, rfl⟩ := addUnique_eq_ok h
  refine ⟨j, hj, ?_⟩
  simp only [allIndices, ← List.append_assoc]
  exact List.perm_append_singleton _ _

section

variable (h : ∃ j, e.admitIndex i = .ok j ∧ e'.allIndices.Perm (j :: e.allIndices))

include h

theorem nodup_of_admitIndex (hd : e.indexNames.Nodup) : e'.indexNames.Nodup := by
  obtain ⟨j, hj, hp⟩ := h
  apply (hp.map Index.name).nodup_iff.2
  rw [List.map_cons, List.nodup_cons]
  refine ⟨?_, hd⟩
  obtain ⟨-, -, -, hfree⟩ := admitIndex_eq_ok hj
  rw [← indexNames, mem_indexNames_iff, hfree]
  exact Bool.false_ne_true

theorem forall_of_admitIndex {P : Index → Prop} (hP : ∀ k ∈ e.allIndices, P k)
    (hj : ∀ j, e.admitIndex i = .ok j → P j) : ∀ k ∈ e'.allIndices, P k := by
  obtain ⟨j, hij, hp⟩ := h
  intro k hk
  rcases List.mem_cons.1 (hp.mem_iff.1 hk) with rfl | hk
  · exact hj k hij
  · exact hP k hk

end

end Tablecraft.Entity
