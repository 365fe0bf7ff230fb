import Tablecraft.Proofs.EditRuns
import Tablecraft.Proofs.Model.Names

namespace Tablecraft.Database

open List Edit

variable {R S T : Entity → Entity → Prop} {db db' db'' s : Database} {e : Entity} {name : String}

structure Related (R : Entity → Entity → Prop) (db db' : Database) : Prop where
  frame : db' = { db with entities := db'.entities }
  entities : Forall₂ R db.entities db'.entities

namespace Related

theorem refl (hR : ∀ e, R e e) (db : Database) : db.Related R db := ⟨rfl, forall₂_same.2 fun e _ => hR e⟩

theorem trans (hR : ∀ x y z, R x y → S y z → T x z) (h : db.Related R db') (h' : db'.Related S db'') :
    db.Related T db'' where
  frame := h'.frame.trans (by rw [h.frame])
  entities := FirstMatch.forall₂_trans hR h.entities h'.entities

variable (hR : ∀ x y, R x y → x.SameNames y)

include hR

theorem position?_eq (h : db.Related R db') (name : String) : db'.position? name = db.position? name :=
  position?_congr (h.entities.imp hR) name

theorem addressed (h : db.Related R db') (ha : db.Addressed) : db'.Addressed :=
  ha.congr (h.entities.imp hR)

theorem entity? (h : db.Related R db') (he : db.entity? name = some e) :
    ∃ e', db'.entity? name = some e' ∧ R e e' :=
  FirstMatch.exists_of_find? h.entities (fun x y hxy => ((hR x y hxy).isNamed name).symm) he

theorem entity?' {e' : Entity} (h : db.Related R db') (he : db'.entity? name = some e') :
    ∃ e, db.entity? name = some e ∧ R e e' :=
  FirstMatch.exists_of_find?' h.entities (fun x y hxy => ((hR x y hxy).isNamed name).symm) he

omit hR

theorem map (h : db.Related R s) {f : Entity → Entity} (hf : ∀ x y, R x y → R x (f y)) :
    db.Related R { s with entities := s.entities.map f } where
  frame := by rw [h.frame]
  entities := List.forall₂_map_right_iff.2 (h.entities.imp hf)

theorem modifyEntity (h : db.Related R s) (name : String) {f : Entity → Entity}
    (hf : ∀ x y, R x y → R x (f y)) : db.Related R (s.modifyEntity name f) where
  frame := by
    rw [h.frame]
    rfl
  entities := FirstMatch.forall₂_modify h.entities _ f hf

theorem of_modifyEntity (hR : ∀ e, R e e) {f : Entity → Entity} (hf : ∀ e, s.entity? name = some e → R e (f e)) :
    s.Related R (s.modifyEntity name f) :=
  ⟨rfl, FirstMatch.forall₂_modify_self hR hf⟩

theorem modifyEntityAt (h : db.Related R s) {i : Nat} {f : Entity → Entity}
    (hf : ∀ x y, db.entities[i]? = some x → s.entities[i]? = some y → R x y → R x (f y)) :
    db.Related R (s.modifyEntityAt i f) where
  frame := by
    rw [h.frame]
    rfl
  entities := FirstMatch.forall₂_listModify h.entities i f hf

theorem keeps_editEntity (name : String) {edit : Edit Entity Unit} (h : ∀ e, Keeps (R e) edit) :
    Keeps (db.Related R) (editEntity name edit) := by
  intro s hs
  rw [editEntity, after_within]
  exact { frame := by rw [hs.frame]
          entities := Keeps.first (·.isNamed name) h s.entities hs.entities }

end Related

theorem result_editEntity (name : String) (g : Entity → Except Fault Entity) (s : Database) :
    (editEntity name (attempt g)).result s = match s.entity? name with
      | none => .ok s
      | some e => (g e).map fun e' => s.modifyEntity name fun _ => e' := by
  unfold editEntity result within entity?
  rw [Edit.first_attempt]
  cases s.entities.find? (·.isNamed name) with
  | none => rfl
  | some e =>
      dsimp only
      cases g e <;> rfl

end Tablecraft.Database
