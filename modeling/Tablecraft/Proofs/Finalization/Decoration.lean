import Tablecraft.Finalization.Basic
import Tablecraft.Proofs.Model.Extension

namespace Tablecraft

open List Edit

variable {e e' e'' e₀ : Entity} {db db' : Database}

structure Entity.Decorated (e e' : Entity) : Prop where
  frame : e' = { e with indices := e'.indices, chosenSequence := e'.chosenSequence }
  indices : Grows Eq (fun _ => True) e.indices e'.indices

namespace Entity.Decorated

theorem refl (e : Entity) : e.Decorated e := ⟨rfl, .refl (fun _ => rfl) _⟩

theorem trans (h : e.Decorated e') (h' : e'.Decorated e'') : e.Decorated e'' where
  frame := h'.frame.trans (by rw [h.frame])
  indices := h.indices.trans (fun _ _ _ => Eq.trans) (fun _ _ _ _ => trivial) h'.indices

theorem sameNames (h : e.Decorated e') : e.SameNames e' := ⟨by rw [h.frame], by rw [h.frame]⟩

theorem relations_eq (h : e.Decorated e') : e'.relations = e.relations := by rw [h.frame]

theorem referrers_eq (h : e.Decorated e') : e'.referrers = e.referrers := by rw [h.frame]

theorem fields_eq (h : e.Decorated e') : e'.fields = e.fields := by rw [h.frame]

theorem hasField_eq (h : e.Decorated e') (name : String) : e'.hasField name = e.hasField name := by
  rw [h.frame]
  rfl

theorem fullTable_eq (h : e.Decorated e') : e'.fullTable = e.fullTable := by
  rw [h.frame]
  rfl

end Entity.Decorated

def Database.Decorated : Database → Database → Prop := Related Entity.Decorated

structure Entity.Adorns (R : Entity → Entity → Prop) : Prop where
  addIndex {e₀ e e' : Entity} {i : Index} : R e₀ e → e.addIndex i = .ok e' → R e₀ e'
  choose {e₀ e : Entity} (sequence : String) : R e₀ e → R e₀ { e with chosenSequence := some sequence }

namespace Entity.Adorns

open Finalization

variable {R : Entity → Entity → Prop} (hR : Adorns R)

include hR

theorem keeps_addNewIndices (indices : List Index) : Keeps (R e₀) (addNewIndices indices) := by
  induction indices with
  | nil => exact .pure
  | cons i rest ih =>
      refine .bind (.attempt fun e e' h ha => ?_) fun _ => ih
      split at ha
      · cases ha
        exact h
      · exact hR.addIndex h ha

theorem keeps_indexRelations (p : Platform) (name : String) : Keeps (db.Related R) (indexRelations p name) := by
  intro s hs
  cases he : s.entity? name with
  | none => simpa [indexRelations, Edit.after, he] using hs
  | some e =>
      by_cases hu : p.usesForeignKeyEngine e = true
      · simpa [indexRelations, Edit.after, he, hu] using hs
      · have h := Database.Related.keeps_editEntity name
          (fun _ => hR.keeps_addNewIndices (relationIndices p s e)) s hs
        simpa [indexRelations, Edit.after, he, hu] using h

theorem keeps_indexAllRelations (p : Platform) (names : List String) :
    Keeps (db.Related R) (indexAllRelations p names) := by
  induction names with
  | nil => exact .pure
  | cons name rest ih => exact .bind (hR.keeps_indexRelations p name) fun _ => ih

theorem chooseSequences (p : Platform) (names : List String) (cache : Naming.Cache)
    {s : Database} (hs : db.Related R s) : db.Related R (chooseSequences p cache names s) := by
  induction names generalizing cache s with
  | nil => exact hs
  | cons name rest ih =>
      refine ih _ ?_
      dsimp only [chooseSequence]
      split
      · exact hs
      · split
        · exact Database.Related.modifyEntity hs name fun _ _ h => hR.choose _ h
        · exact hs

theorem keeps_dialectPass (p : Platform) (names : List String) : Keeps (db.Related R) (dialectPass p names) := by
  unfold dialectPass
  split
  · exact hR.keeps_indexAllRelations p names
  · exact .succeed fun s hs => hR.chooseSequences p names {} hs
  · exact .pure

end Entity.Adorns

theorem Entity.adorns_decorated : Entity.Adorns Entity.Decorated where
  addIndex h ha := by
    obtain ⟨j, _, rfl⟩ := Entity.addIndex_eq_ok ha
    exact h.trans ⟨rfl, (Grows.refl (fun _ => rfl) _).append trivial⟩
  choose sequence h := h.trans ⟨rfl, .refl (fun _ => rfl) _⟩

theorem Finalization.keeps_dialectPass (p : Platform) (names : List String) :
    Keeps db.Decorated (dialectPass p names) :=
  Entity.adorns_decorated.keeps_dialectPass p names

end Tablecraft
