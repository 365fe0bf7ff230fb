import Tablecraft.Model.Database
import Tablecraft.Proofs.FirstMatch

namespace Tablecraft

open List

def Entity.SameNames (e e' : Entity) : Prop := e'.name = e.name ∧ e'.space = e.space

theorem Entity.SameNames.isNamed {e e' : Entity} (h : e.SameNames e') (name : String) :
    e'.isNamed name = e.isNamed name := by
  simp [Entity.isNamed, Entity.fullName, h.1, h.2]

theorem Entity.SameNames.refl (e : Entity) : e.SameNames e := ⟨rfl, rfl⟩

theorem Entity.SameNames.trans {e e' e'' : Entity} (h : e.SameNames e') (h' : e'.SameNames e'') :
    e.SameNames e'' :=
  ⟨h'.1.trans h.1, h'.2.trans h.2⟩

theorem Entity.SameNames.foldl {α : Type} {f : Entity → α → Entity}
    (hf : ∀ (e : Entity) a, e.SameNames (f e a)) (xs : List α) (e : Entity) : e.SameNames (xs.foldl f e) := by
  induction xs generalizing e with
  | nil => exact refl e
  | cons x rest ih => exact (hf e x).trans (ih _)

theorem Entity.isNamed_name (e : Entity) : e.isNamed e.name = true := by simp [Entity.isNamed]

namespace Database

variable {db db' : Database} {e : Entity} {name : String} {i : Nat}

/-- No entity goes by the name of a later one. -/
def Addressed (db : Database) : Prop :=
  db.entities.Pairwise fun earlier later => earlier.isNamed later.name = false

theorem entity?_eq_getElem? (db : Database) (name : String) :
    db.entity? name = (db.position? name).bind fun i => db.entities[i]? :=
  FirstMatch.find?_eq_getElem? _ _

theorem entity?_eq_some_iff :
    db.entity? name = some e ↔ ∃ i, db.position? name = some i ∧ db.entities[i]? = some e := by
  rw [entity?_eq_getElem?, Option.bind_eq_some_iff]

theorem mem_of_entity? (h : db.entity? name = some e) : e ∈ db.entities := List.mem_of_find?_eq_some h

theorem Addressed.position?_eq (h : db.Addressed) (hi : db.entities[i]? = some e) :
    db.position? e.name = some i := by
  obtain ⟨hl, rfl⟩ := List.getElem?_eq_some_iff.1 hi
  refine List.findIdx?_eq_some_iff_getElem.2 ⟨hl, Entity.isNamed_name _, fun j hj => ?_⟩
  have hn := List.pairwise_iff_getElem.1 h j i (Nat.lt_trans hj hl) hl hj
  simp [hn]

theorem Addressed.entity?_eq (h : db.Addressed) (he : e ∈ db.entities) : db.entity? e.name = some e := by
  obtain ⟨i, hi⟩ := List.mem_iff_getElem?.1 he
  exact entity?_eq_some_iff.2 ⟨i, h.position?_eq hi, hi⟩

theorem Addressed.eq_of_name {e' : Entity} (h : db.Addressed) (he : e ∈ db.entities)
    (he' : e' ∈ db.entities) (hn : e.name = e'.name) : e = e' := by
  have hx := h.entity?_eq he
  rw [hn, h.entity?_eq he'] at hx
  exact (Option.some.inj hx).symm

theorem Addressed.nodup_entityNames (h : db.Addressed) : db.entityNames.Nodup := by
  refine List.pairwise_map.2 (h.imp fun {a b} hx hn => ?_)
  rw [← hn, Entity.isNamed_name] at hx
  cases hx

theorem position?_congr (h : Forall₂ Entity.SameNames db.entities db'.entities) (name : String) :
    db'.position? name = db.position? name :=
  (FirstMatch.findIdx?_eq_of_forall₂ h fun _ _ hn => (hn.isNamed name).symm).symm

theorem entityNames_congr (h : Forall₂ Entity.SameNames db.entities db'.entities) :
    db'.entityNames = db.entityNames :=
  FirstMatch.map_eq_of_forall₂ h fun _ _ hn => hn.1

theorem Addressed.congr (h : db.Addressed)
    (hn : Forall₂ Entity.SameNames db.entities db'.entities) : db'.Addressed := by
  refine List.pairwise_iff_getElem.2 fun i j hi hj hij => ?_
  obtain ⟨x, hx, hxn⟩ := FirstMatch.exists_of_getElem?' hn (List.getElem?_eq_getElem hi)
  obtain ⟨y, hy, hyn⟩ := FirstMatch.exists_of_getElem?' hn (List.getElem?_eq_getElem hj)
  obtain ⟨hi', rfl⟩ := List.getElem?_eq_some_iff.1 hx
  obtain ⟨hj', rfl⟩ := List.getElem?_eq_some_iff.1 hy
  rw [hxn.isNamed, hyn.1]
  exact List.pairwise_iff_getElem.1 h i j hi' hj' hij

theorem modifyEntity_eq_self {f : Entity → Entity} (hn : db.entity? name = none) :
    db.modifyEntity name f = db := by
  have hf : db.entities.findIdx? (·.isNamed name) = none := List.findIdx?_eq_none_iff.2 fun e he => by
    simpa using List.find?_eq_none.1 hn e he
  rw [modifyEntity, FirstMatch.modify_eq_self f hf]

theorem Addressed.modifyEntityAt (ha : db.Addressed) (i : Nat) {f : Entity → Entity}
    (hf : ∀ e : Entity, e.SameNames (f e)) :
    (db.modifyEntityAt i f).Addressed :=
  ha.congr (FirstMatch.forall₂_listModify (forall₂_same.2 fun e _ => .refl e) i f fun _ e _ _ h => h.trans (hf e))

theorem modifyEntity_eq_modifyEntityAt (hi : db.position? name = some i) (f : Entity → Entity) :
    db.modifyEntity name f = db.modifyEntityAt i f := by
  rw [modifyEntity, FirstMatch.modify_eq_modify f hi, modifyEntityAt]

theorem entity?_modifyEntity_self {f : Entity → Entity} (hf : ∀ x : Entity, x.SameNames (f x)) (name : String) :
    (db.modifyEntity name f).entity? name = (db.entity? name).map f := by
  unfold modifyEntity entity?
  exact FirstMatch.find?_modify fun x hx => by rwa [(hf x).isNamed]

/-- An entity leads somewhere else only where it is the one that changes. -/
theorem Addressed.entity?_modifyEntity {f : Entity → Entity} (ha : db.Addressed) (he : db.entity? name = some e)
    (hn : e.SameNames (f e)) (x : String) :
    (db.modifyEntity name f).entity? x = (db.entity? x).map fun a => if a.name = e.name then f e else a := by
  unfold Addressed at ha
  unfold entity? modifyEntity at *
  dsimp only at *
  generalize db.entities = es at *
  induction es with
  | nil => cases he
  | cons y rest ih =>
      obtain ⟨hy, hrest⟩ := List.pairwise_cons.1 ha
      -- The two look-ups may go by different names of one entity, so its own name tells it apart.
      by_cases hyn : y.isNamed name = true
      · obtain rfl : y = e := by simpa [hyn] using he
        by_cases hyx : y.isNamed x = true
        · simp [FirstMatch.modify, hyn, hyx, hn.isNamed x]
        · have hr : (rest.find? (·.isNamed x)).map (fun a => if a.name = y.name then f y else a) =
              rest.find? (·.isNamed x) := by
            refine (Option.map_congr fun a hm => if_neg fun hay => ?_).trans Option.map_id'
            have hm := hy a (List.mem_of_find?_eq_some hm)
            rw [hay, Entity.isNamed_name] at hm
            cases hm
          simp [FirstMatch.modify, hyn, hyx, hn.isNamed x, hr]
      · have he : rest.find? (·.isNamed name) = some e := by simpa [hyn] using he
        by_cases hyx : y.isNamed x = true
        · have hye : y.name ≠ e.name := by
            intro hye
            have hm := hy e (List.mem_of_find?_eq_some he)
            rw [← hye, Entity.isNamed_name] at hm
            cases hm
          simp [FirstMatch.modify, hyn, hyx, hye]
        · simpa [FirstMatch.modify, hyn, hyx] using ih hrest he

theorem addEntity_eq_ok (ha : db.addEntity e = .ok db') :
    db.hasEntity e.name = false ∧ db' = { db with entities := db.entities ++ [db.adopt e] } := by
  unfold addEntity at ha
  split at ha
  · cases ha
  · rename_i hn
    cases ha
    exact ⟨eq_false_of_ne_true hn, rfl⟩

/-- What the entities have, and the one that is added has once it is adopted, the entities have afterwards. -/
theorem forall_addEntity {P : Entity → Prop} (h : ∀ x ∈ db.entities, P x) (he : P (db.adopt e))
    (ha : db.addEntity e = .ok db') : ∀ x ∈ db'.entities, P x := by
  obtain ⟨-, rfl⟩ := addEntity_eq_ok ha
  exact List.forall_mem_append.2 ⟨h, List.forall_mem_singleton.2 he⟩

theorem addBehavior_eq_ok {b : Behavior} (ha : db.addBehavior b = .ok db') :
    b.clashes db.behaviors = false ∧ db' = { db with behaviors := db.behaviors ++ [b] } := by
  unfold addBehavior at ha
  split at ha
  · cases ha
  · exact ⟨eq_false_of_ne_true ‹_›, (Except.ok.inj ha).symm⟩

theorem Addressed.addEntity (h : db.Addressed) (ha : db.addEntity e = .ok db') : db'.Addressed := by
  obtain ⟨hn, rfl⟩ := addEntity_eq_ok ha
  refine List.pairwise_append.2 ⟨h, List.pairwise_singleton _ _, fun x hx y hy => ?_⟩
  obtain rfl := List.mem_singleton.1 hy
  have hnone : db.entity? e.name = none := by simpa [hasEntity] using hn
  simpa [Database.adopt] using List.find?_eq_none.1 hnone x hx

theorem removeEntity?_eq_some {rest : Database} (h : db.removeEntity? name = some (e, rest)) :
    ∃ e₀ ∈ db.entities, e = { e₀ with database := none } ∧
      rest = { db with entities := rest.entities } ∧ rest.entities.Sublist db.entities := by
  obtain ⟨⟨e₀, es⟩, hx, heq⟩ := Option.map_eq_some_iff.1 h
  obtain ⟨rfl, rfl⟩ := Prod.mk.inj heq
  obtain ⟨hm, hs⟩ := FirstMatch.mem_of_extract? hx
  exact ⟨e₀, hm, rfl, rfl, hs⟩

end Database

end Tablecraft
