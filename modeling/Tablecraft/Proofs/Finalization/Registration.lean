import Tablecraft.Finalization.Basic
import Tablecraft.Proofs.Model.Parts
import Tablecraft.Proofs.Model.Related

namespace Tablecraft

open List Edit

variable {e e' foreign : Entity} {db db' s t : Database} {i : Nat} {name : String}

structure Field.Informed (f g : Field) : Prop where
  frame : g = { f with referrers := g.referrers }
  referrers : f.referrers ⊆ g.referrers

structure Entity.Informed (e e' : Entity) : Prop where
  frame : e' = { e with
    fields := e'.fields, referrers := e'.referrers, containsForeignKey := e'.containsForeignKey }
  fields : Forall₂ Field.Informed e.fields e'.fields
  referrers : e.referrers ⊆ e'.referrers

theorem Field.Informed.refl (f : Field) : f.Informed f := ⟨rfl, fun _ h => h⟩

theorem Field.Informed.trans {f g h : Field} (hg : f.Informed g) (hh : g.Informed h) : f.Informed h :=
  ⟨hh.frame.trans (by rw [hg.frame]), List.Subset.trans hg.referrers hh.referrers⟩

namespace RelationRef

variable {ref x : RelationRef} {refs refs' : List RelationRef}

def enlist (ref : RelationRef) (refs : List RelationRef) : List RelationRef :=
  if ref ∈ refs then refs else refs ++ [ref]

@[simp] theorem mem_enlist : x ∈ ref.enlist refs ↔ x = ref ∨ x ∈ refs := by
  unfold enlist
  split
  · rename_i hr
    exact ⟨.inr, fun h => h.elim (fun he => he ▸ hr) id⟩
  · simp [or_comm]

theorem subset_enlist (ref : RelationRef) (refs : List RelationRef) : refs ⊆ ref.enlist refs :=
  fun _ hx => mem_enlist.2 (.inr hx)

theorem perm_enlist (h : refs.Perm refs') (ref : RelationRef) : (ref.enlist refs).Perm (ref.enlist refs') := by
  by_cases hm : ref ∈ refs
  · simpa only [enlist, if_pos hm, if_pos (h.mem_iff.1 hm)] using h
  · simpa only [enlist, if_neg hm, if_neg (h.mem_iff.not.1 hm)] using h.append_right [ref]

theorem perm_enlist_enlist (refs : List RelationRef) (a b : RelationRef) :
    (a.enlist (b.enlist refs)).Perm (b.enlist (a.enlist refs)) := by
  by_cases hab : a = b
  · rw [hab]
  · have hba : ¬b = a := fun h => hab h.symm
    by_cases ha : a ∈ refs <;> by_cases hb : b ∈ refs
    · simp [enlist, ha, hb]
    · simp [enlist, ha, hb]
    · simp [enlist, ha, hb]
    · simpa [enlist, ha, hb, hab, hba] using (List.Perm.swap a b []).append_left refs

end RelationRef

theorem Field.addReferrer_eq (ref : RelationRef) (f : Field) :
    f.addReferrer ref = { f with referrers := ref.enlist f.referrers } := by
  unfold Field.addReferrer RelationRef.enlist
  split <;> rfl

theorem Entity.addReferrer_eq (ref : RelationRef) (e : Entity) :
    e.addReferrer ref = { e with referrers := ref.enlist e.referrers } := by
  unfold Entity.addReferrer RelationRef.enlist
  split <;> rfl

@[simp] theorem Field.name_addReferrer (r : RelationRef) (f : Field) : (f.addReferrer r).name = f.name := by
  rw [Field.addReferrer_eq]

theorem Field.mem_addReferrer {r x : RelationRef} {f : Field} :
    x ∈ (f.addReferrer r).referrers ↔ x = r ∨ x ∈ f.referrers := by
  rw [Field.addReferrer_eq, RelationRef.mem_enlist]

theorem Entity.mem_addReferrer {r x : RelationRef} {e : Entity} :
    x ∈ (e.addReferrer r).referrers ↔ x = r ∨ x ∈ e.referrers := by
  rw [Entity.addReferrer_eq, RelationRef.mem_enlist]

theorem Field.Informed.name_eq {f g : Field} (h : f.Informed g) : g.name = f.name := by rw [h.frame]

namespace Entity.Informed

theorem refl (e : Entity) : e.Informed e := ⟨rfl, forall₂_same.2 fun f _ => .refl f, fun _ h => h⟩

theorem trans {e e' e'' : Entity} (h : e.Informed e') (h' : e'.Informed e'') : e.Informed e'' where
  frame := h'.frame.trans (by rw [h.frame])
  fields := FirstMatch.forall₂_trans (fun _ _ _ hx hy => hx.trans hy) h.fields h'.fields
  referrers := List.Subset.trans h.referrers h'.referrers

theorem sameNames (h : e.Informed e') : e.SameNames e' := ⟨by rw [h.frame], by rw [h.frame]⟩

theorem relations_eq (h : e.Informed e') : e'.relations = e.relations := by rw [h.frame]

theorem fieldNames_eq (h : e.Informed e') : e'.fieldNames = e.fieldNames :=
  FirstMatch.map_eq_of_forall₂ h.fields fun _ _ hf => hf.name_eq

theorem field? (h : e.Informed e') {f : Field} (hf : e.field? name = some f) :
    ∃ g, e'.field? name = some g ∧ f.Informed g :=
  FirstMatch.exists_of_find? h.fields (fun _ _ hk => by rw [hk.name_eq]) hf

theorem addReferrer (r : RelationRef) (e : Entity) : e.Informed (e.addReferrer r) := by
  rw [Entity.addReferrer_eq]
  exact { refl e with frame := rfl, referrers := r.subset_enlist e.referrers }

theorem modifyField (r : RelationRef) (name : String) (e : Entity) :
    e.Informed (e.modifyField name (Field.addReferrer r)) := by
  refine { refl e with frame := rfl, fields := ?_ }
  refine FirstMatch.forall₂_modify (forall₂_same.2 fun f _ => .refl f) _ _ fun f g h => h.trans ?_
  rw [Field.addReferrer_eq]
  exact ⟨rfl, r.subset_enlist g.referrers⟩

end Entity.Informed

namespace Finalization

theorem informed_fields (ref : RelationRef) (names : List String) (e : Entity) :
    e.Informed (names.foldl (fun e name => e.modifyField name (Field.addReferrer ref)) e) := by
  induction names generalizing e with
  | nil => exact .refl e
  | cons name rest ih => exact (Entity.Informed.modifyField ref name e).trans (ih _)

theorem informed_register (g : Registration) (e : Entity) : e.Informed (register g e) :=
  (Entity.Informed.addReferrer g.reference e).trans (informed_fields g.reference g.fields _)

def Knows (ref : RelationRef) (names : List String) (e : Entity) : Prop :=
  ref ∈ e.referrers ∧ ∀ name ∈ names, ∃ f, e.field? name = some f ∧ ref ∈ f.referrers

theorem Knows.of_informed {ref : RelationRef} {names : List String} (h : Knows ref names e)
    (hi : e.Informed e') : Knows ref names e' := by
  refine ⟨hi.referrers h.1, fun name hn => ?_⟩
  obtain ⟨f, hf, hr⟩ := h.2 name hn
  obtain ⟨g, hg, hk⟩ := hi.field? hf
  exact ⟨g, hg, hk.referrers hr⟩

theorem mem_modifyField (ref : RelationRef) (h : e.hasField name = true) :
    ∃ f, (e.modifyField name (Field.addReferrer ref)).field? name = some f ∧ ref ∈ f.referrers := by
  obtain ⟨f, hf⟩ := Entity.exists_field? h
  refine ⟨f.addReferrer ref, ?_, Field.mem_addReferrer.2 (.inl rfl)⟩
  rw [Entity.field?, Entity.modifyField, FirstMatch.find?_modify (by simp)]
  exact Option.map_eq_some_iff.2 ⟨f, hf, rfl⟩

theorem knows_register (g : Registration) (h : ∀ name ∈ g.fields, e.hasField name = true) :
    Knows g.reference g.fields (register g e) := by
  have hf (names : List String) (e : Entity) (h : ∀ name ∈ names, e.hasField name = true) :
      ∀ name ∈ names, ∃ f, (names.foldl (fun e name => e.modifyField name (Field.addReferrer g.reference))
        e).field? name = some f ∧ g.reference ∈ f.referrers := by
    induction names generalizing e with
    | nil => simp
    | cons name rest ih =>
        have hi := Entity.Informed.modifyField g.reference name e
        obtain ⟨hn, hrest⟩ := List.forall_mem_cons.1 h
        obtain ⟨f, hf, hr⟩ := mem_modifyField g.reference hn
        obtain ⟨f', hf', hk⟩ := (informed_fields g.reference rest _).field? hf
        refine List.forall_mem_cons.2 ⟨⟨f', hf', hk.referrers hr⟩, ih _ fun other ho => ?_⟩
        rw [Entity.hasField_iff, hi.fieldNames_eq, ← Entity.hasField_iff]
        exact hrest other ho
  have ha := Entity.Informed.addReferrer g.reference e
  refine ⟨(informed_fields g.reference g.fields _).referrers (Entity.mem_addReferrer.2 (.inl rfl)),
    hf g.fields _ fun name hn => ?_⟩
  rw [Entity.hasField_iff, ha.fieldNames_eq, ← Entity.hasField_iff]
  exact h name hn

theorem mem_of_fields (ref : RelationRef) (names : List String) (e : Entity) :
    ∀ f ∈ (names.foldl (fun e name => e.modifyField name (Field.addReferrer ref)) e).fields,
      ∀ x ∈ f.referrers,
        (x = ref ∧ f.name ∈ names) ∨ ∃ f₀ ∈ e.fields, f₀.name = f.name ∧ x ∈ f₀.referrers := by
  induction names generalizing e with
  | nil => exact fun f hf x hx => .inr ⟨f, hf, rfl, hx⟩
  | cons name rest ih =>
      intro f hf x hx
      rcases ih _ f hf x hx with ⟨hr, hm⟩ | ⟨f₁, hf₁, hn, hx₁⟩
      · exact .inl ⟨hr, List.mem_cons_of_mem _ hm⟩
      · rcases FirstMatch.mem_modify hf₁ with hm | ⟨f₀, hm, hp, rfl⟩
        · exact .inr ⟨f₁, hm, hn, hx₁⟩
        · rw [Field.name_addReferrer] at hn
          rcases Field.mem_addReferrer.1 hx₁ with hr | hx₀
          · refine .inl ⟨hr, ?_⟩
            rw [← hn, eq_of_beq hp]
            exact List.mem_cons_self
          · exact .inr ⟨f₀, hm, hn, hx₀⟩

theorem referrers_fields (ref : RelationRef) (names : List String) (e : Entity) :
    (names.foldl (fun e name => e.modifyField name (Field.addReferrer ref)) e).referrers = e.referrers := by
  induction names generalizing e with
  | nil => rfl
  | cons name rest ih => rw [List.foldl_cons, ih, Entity.modifyField]

/-- Nothing but the registered relation becomes a referrer, of the entity and of those fields. -/
theorem mem_of_register (g : Registration) (e : Entity) :
    (∀ ref ∈ (register g e).referrers, ref = g.reference ∨ ref ∈ e.referrers) ∧
      ∀ f ∈ (register g e).fields, ∀ ref ∈ f.referrers,
        (ref = g.reference ∧ f.name ∈ g.fields) ∨ ∃ f₀ ∈ e.fields, f₀.name = f.name ∧ ref ∈ f₀.referrers := by
  refine ⟨fun ref hr => ?_, fun f hf ref hr => ?_⟩
  · rw [register, referrers_fields] at hr
    exact Entity.mem_addReferrer.1 hr
  · have hm := mem_of_fields g.reference g.fields (e.addReferrer g.reference) f hf ref hr
    rwa [Entity.addReferrer_eq] at hm

end Finalization

namespace Database

def Informed : Database → Database → Prop := Related Entity.Informed

def PointsAt (db : Database) (ref : RelationRef) (i : Nat) (fields : List String) : Prop :=
  ∃ e ∈ db.entities, ∃ r ∈ e.relations, ref = ⟨e.name, r.name⟩ ∧
    db.position? r.foreignEntity = some i ∧ fields = r.foreignFields

structure Sourced (db : Database) : Prop where
  referrers : ∀ i e, db.entities[i]? = some e → ∀ ref ∈ e.referrers, ∃ fields, db.PointsAt ref i fields
  fieldReferrers : ∀ i e, db.entities[i]? = some e → ∀ f ∈ e.fields, ∀ ref ∈ f.referrers,
    ∃ fields, db.PointsAt ref i fields ∧ f.name ∈ fields

namespace Informed

theorem refl (db : Database) : db.Informed db := Related.refl Entity.Informed.refl db

theorem trans {db db' db'' : Database} (h : db.Informed db') (h' : db'.Informed db'') : db.Informed db'' :=
  Related.trans (fun _ _ _ hx hy => hx.trans hy) h h'

theorem position?_eq (h : db.Informed db') (name : String) : db'.position? name = db.position? name :=
  Related.position?_eq (fun _ _ he => he.sameNames) h name

theorem addressed (h : db.Informed db') (ha : db.Addressed) : db'.Addressed :=
  Related.addressed (fun _ _ he => he.sameNames) h ha

theorem pointsAt_iff (h : db.Informed db') {ref : RelationRef} {fields : List String} :
    db'.PointsAt ref i fields ↔ db.PointsAt ref i fields := by
  constructor
  · rintro ⟨e', he', r, hr, rfl, hp, hf⟩
    obtain ⟨e, he, hi⟩ := FirstMatch.exists_of_mem' h.entities he'
    exact ⟨e, he, r, hi.relations_eq ▸ hr, by rw [hi.sameNames.1], h.position?_eq _ ▸ hp, hf⟩
  · rintro ⟨e, he, r, hr, rfl, hp, hf⟩
    obtain ⟨e', he', hi⟩ := FirstMatch.exists_of_mem h.entities he
    refine ⟨e', he', r, ?_, by rw [hi.sameNames.1], ?_, hf⟩
    · rw [hi.relations_eq]
      exact hr
    · rw [h.position?_eq, hp]

end Informed

end Database

namespace Finalization

structure Registration.Expected (db : Database) (g : Registration) (i : Nat) : Prop where
  pointsAt : db.PointsAt g.reference i g.fields
  position : db.position? g.foreign = some i
  fields : ∃ e, db.entities[i]? = some e ∧ ∀ name ∈ g.fields, e.hasField name = true

theorem Registration.Expected.of_informed {g : Registration} (h : g.Expected db i) (hi : db.Informed db') :
    g.Expected db' i := by
  obtain ⟨e, he, hf⟩ := h.fields
  obtain ⟨e', he', hx⟩ := FirstMatch.exists_of_getElem? hi.entities he
  refine ⟨hi.pointsAt_iff.2 h.pointsAt, by rw [hi.position?_eq, h.position], e', he', fun name hn => ?_⟩
  rw [Entity.hasField_iff, hx.fieldNames_eq, ← Entity.hasField_iff]
  exact hf name hn

def KnowsAt (db : Database) (i : Nat) (ref : RelationRef) (fields : List String) : Prop :=
  ∃ e, db.entities[i]? = some e ∧ Knows ref fields e

theorem KnowsAt.of_informed {ref : RelationRef} {fields : List String} (h : KnowsAt db i ref fields)
    (hi : db.Informed db') : KnowsAt db' i ref fields := by
  obtain ⟨e, he, hk⟩ := h
  obtain ⟨e', he', hx⟩ := FirstMatch.exists_of_getElem? hi.entities he
  exact ⟨e', he', hk.of_informed hx⟩

theorem informed_modifyEntity (db : Database) (name : String) {f : Entity → Entity}
    (h : ∀ e : Entity, e.Informed (f e)) : db.Informed (db.modifyEntity name f) :=
  Database.Related.modifyEntity (Database.Informed.refl db) name fun _ y hxy => hxy.trans (h y)

theorem sourced_register {g : Registration} (hg : g.Expected db i) (hs : db.Sourced) :
    (db.modifyEntity g.foreign (register g)).Sourced := by
  have hi := informed_modifyEntity db g.foreign (informed_register g)
  refine ⟨fun j e' he ref hr => ?_, fun j e' he f hf ref hr => ?_⟩
  · simp only [hi.pointsAt_iff]
    rcases FirstMatch.of_getElem?_modify he with h₀ | ⟨e, h₀, hj, rfl⟩
    · exact hs.referrers j e' h₀ ref hr
    · obtain rfl : i = j := Option.some.inj (hg.position.symm.trans hj)
      rcases (mem_of_register g e).1 ref hr with rfl | hr
      · exact ⟨g.fields, hg.pointsAt⟩
      · exact hs.referrers i e h₀ ref hr
  · simp only [hi.pointsAt_iff]
    rcases FirstMatch.of_getElem?_modify he with h₀ | ⟨e, h₀, hj, rfl⟩
    · exact hs.fieldReferrers j e' h₀ f hf ref hr
    · obtain rfl : i = j := Option.some.inj (hg.position.symm.trans hj)
      rcases (mem_of_register g e).2 f hf ref hr with ⟨rfl, hn⟩ | ⟨f₀, hf₀, hn, hr⟩
      · exact ⟨g.fields, hg.pointsAt, hn⟩
      · exact hn ▸ hs.fieldReferrers i e h₀ f₀ hf₀ ref hr

theorem knowsAt_register {g : Registration} (hg : g.Expected db i) :
    KnowsAt (db.modifyEntity g.foreign (register g)) i g.reference g.fields := by
  obtain ⟨e, he, hf⟩ := hg.fields
  refine ⟨register g e, ?_, knows_register g hf⟩
  rw [Database.modifyEntity_eq_modifyEntityAt hg.position, Database.modifyEntityAt]
  simp [he]

theorem registerAll_spec {gs : List Registration} (h : ∀ g ∈ gs, ∃ i, g.Expected db i) :
    db.Informed (registerAll gs db) ∧ (db.Sourced → (registerAll gs db).Sourced) ∧
      ∀ g ∈ gs, ∃ i, db.position? g.foreign = some i ∧ KnowsAt (registerAll gs db) i g.reference g.fields := by
  induction gs generalizing db with
  | nil => exact ⟨.refl db, id, by simp⟩
  | cons g rest ih =>
      obtain ⟨⟨i, hg⟩, hrest⟩ := List.forall_mem_cons.1 h
      have hi := informed_modifyEntity db g.foreign (informed_register g)
      -- what is expected of the rest survives the first registration
      obtain ⟨hx, hs, hk⟩ := ih fun g' hg' => (hrest g' hg').imp fun _ he => he.of_informed hi
      refine ⟨hi.trans hx, fun h => hs (sourced_register hg h), ?_⟩
      refine List.forall_mem_cons.2 ⟨⟨i, hg.position, (knowsAt_register hg).of_informed hx⟩, ?_⟩
      intro g' hg'
      obtain ⟨j, hp, hk⟩ := hk g' hg'
      exact ⟨j, by rw [← hi.position?_eq, hp], hk⟩

theorem informed_markForeignKey (name : String) (e : Entity) (db : Database) :
    db.Informed (markForeignKey name e db) := by
  unfold markForeignKey
  split
  · exact informed_modifyEntity db name fun e => { Entity.Informed.refl e with frame := rfl }
  · exact .refl db

theorem sourced_markForeignKey (name : String) (e : Entity) (hs : db.Sourced) :
    (markForeignKey name e db).Sourced := by
  have hi := informed_markForeignKey name e db
  unfold markForeignKey at hi ⊢
  split at hi
  · rw [if_pos ‹_›]
    refine ⟨fun j e' he ref hr => ?_, fun j e' he f hf ref hr => ?_⟩
    · simp only [hi.pointsAt_iff]
      rcases FirstMatch.of_getElem?_modify he with h₀ | ⟨e, h₀, _, rfl⟩
      · exact hs.referrers j e' h₀ ref hr
      · exact hs.referrers j e h₀ ref hr
    · simp only [hi.pointsAt_iff]
      rcases FirstMatch.of_getElem?_modify he with h₀ | ⟨e, h₀, _, rfl⟩
      · exact hs.fieldReferrers j e' h₀ f hf ref hr
      · exact hs.fieldReferrers j e h₀ f hf ref hr
  · rwa [if_neg ‹_›]

theorem registrationOf_eq_ok {r : Relation} {g : Registration} (h : registrationOf db e r = .ok g) :
    ∃ foreign, db.entity? r.foreignEntity = some foreign ∧
      (∀ name ∈ r.foreignFields, foreign.hasField name = true) ∧
      g = ⟨foreign.name, ⟨e.name, r.name⟩, r.foreignFields⟩ := by
  obtain ⟨foreign, hf, h⟩ := except_bind_eq_ok_iff.1 h
  obtain ⟨_, hc, h⟩ := except_bind_eq_ok_iff.1 h
  refine ⟨foreign, ?_, ?_, (Except.ok.inj h).symm⟩
  · unfold foreignOf at hf
    split at hf
    · rename_i f hs
      rw [hs, Except.ok.inj hf]
    · cases hf
  · unfold checkForeignFields at hc
    split at hc
    · cases hc
    · rename_i hn
      simpa using List.find?_eq_none.1 hn

theorem expected_of_registrationOf {r : Relation} {g : Registration} (ha : db.Addressed)
    (he : e ∈ db.entities) (hr : r ∈ e.relations) (h : registrationOf db e r = .ok g) :
    ∃ i, db.position? r.foreignEntity = some i ∧ g.Expected db i := by
  obtain ⟨foreign, hf, hfields, rfl⟩ := registrationOf_eq_ok h
  obtain ⟨i, hp, hi⟩ := Database.entity?_eq_some_iff.1 hf
  exact ⟨i, hp, ⟨e, he, r, hr, rfl, hp, rfl⟩, ha.position?_eq hi, foreign, hi, hfields⟩

/-- Every relation of the named entity becomes known where it points. -/
theorem registerRelationsOf_spec (ha : db.Addressed) (h : registerRelationsOf name db = .ok () t) :
    db.Informed t ∧ (db.Sourced → t.Sourced) ∧ ∀ e, db.entity? name = some e → ∀ r ∈ e.relations,
      ∃ i, db.position? r.foreignEntity = some i ∧ KnowsAt t i ⟨e.name, r.name⟩ r.foreignFields := by
  have h := attempt_eq_ok_iff.1 h
  cases he : db.entity? name with
  | none =>
      rw [he] at h
      cases h
      exact ⟨.refl db, id, by simp⟩
  | some e =>
      rw [he] at h
      obtain ⟨gs, hgs, h⟩ := except_bind_eq_ok_iff.1 h
      obtain rfl := Except.ok.inj h
      have hgs := mapM_eq_ok_iff.1 hgs
      have hm : e ∈ db.entities := Database.mem_of_entity? he
      have hi := informed_markForeignKey name e db
      have hexp : ∀ g ∈ gs, ∃ i, g.Expected (markForeignKey name e db) i := by
        intro g hg
        obtain ⟨r, hr, hgr⟩ := FirstMatch.exists_of_mem' hgs hg
        obtain ⟨i, _, hx⟩ := expected_of_registrationOf ha hm hr hgr
        exact ⟨i, hx.of_informed hi⟩
      obtain ⟨hx, hs, hk⟩ := registerAll_spec hexp
      refine ⟨hi.trans hx, fun h => hs (sourced_markForeignKey name e h), fun e' he' r hr => ?_⟩
      obtain rfl := Option.some.inj he'
      obtain ⟨g, hg, hgr⟩ := FirstMatch.exists_of_mem hgs hr
      obtain ⟨i, hp, hx⟩ := expected_of_registrationOf ha hm hr hgr
      obtain ⟨j, hj, hkj⟩ := hk g hg
      obtain rfl : i = j := by simpa [hi.position?_eq, hx.position] using hj
      obtain ⟨foreign, _, _, rfl⟩ := registrationOf_eq_ok hgr
      exact ⟨i, hp, hkj⟩

theorem registerAllRelations_spec {names : List String} (ha : db.Addressed)
    (h : registerAllRelations names db = .ok () t) :
    db.Informed t ∧ (db.Sourced → t.Sourced) ∧
      ∀ name ∈ names, ∀ e, db.entity? name = some e → ∀ r ∈ e.relations,
        ∃ i, db.position? r.foreignEntity = some i ∧ KnowsAt t i ⟨e.name, r.name⟩ r.foreignFields := by
  induction names generalizing db with
  | nil =>
      cases h
      exact ⟨.refl _, id, by simp⟩
  | cons name rest ih =>
      obtain ⟨_, u, hu, ht⟩ := bind_eq_ok_iff.1 h
      obtain ⟨hx, hs, hk⟩ := registerRelationsOf_spec ha hu
      obtain ⟨hx', hs', hk'⟩ := ih (hx.addressed ha) ht
      refine ⟨hx.trans hx', hs' ∘ hs, List.forall_mem_cons.2 ⟨fun e he r hr => ?_, ?_⟩⟩
      · obtain ⟨i, hp, hi⟩ := hk e he r hr
        exact ⟨i, hp, hi.of_informed hx'⟩
      · intro other ho e he r hr
        obtain ⟨e', he', hee⟩ := Database.Related.entity? (fun _ _ h => h.sameNames) hx he
        obtain ⟨i, hp, hi⟩ := hk' other ho e' he' r (hee.relations_eq ▸ hr)
        exact ⟨i, by rw [← hx.position?_eq, hp], hee.sameNames.1 ▸ hi⟩

/-- After the sweep over all entities every relation is known where it points. -/
theorem knowsAt_of_registerAllRelations (ha : db.Addressed)
    (h : registerAllRelations db.entityNames db = .ok () t) :
    ∀ e ∈ t.entities, ∀ r ∈ e.relations,
      ∃ i, t.position? r.foreignEntity = some i ∧ KnowsAt t i ⟨e.name, r.name⟩ r.foreignFields := by
  intro e' he' r hr
  obtain ⟨hx, _, hk⟩ := registerAllRelations_spec ha h
  obtain ⟨e, he, hee⟩ := FirstMatch.exists_of_mem' hx.entities he'
  have hn : e.name ∈ db.entityNames := List.mem_map_of_mem he
  obtain ⟨i, hp, hi⟩ := hk e.name hn e (ha.entity?_eq he) r (hee.relations_eq ▸ hr)
  exact ⟨i, by rw [hx.position?_eq, hp], by rw [hee.sameNames.1]; exact hi⟩

end Finalization

end Tablecraft
