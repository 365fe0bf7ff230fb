import Tablecraft.Proofs.Behavior.Benign
import Tablecraft.Proofs.Finalization.KeyIndices
import Tablecraft.Proofs.Model.Indices

namespace Tablecraft

open List Edit

variable {registry : Registry} {p : Platform} {tables : String → Option String} {db s t : Database}
  {e e' e'' e₀ : Entity} {i : Index} {name : String}

structure Entity.SameConstraints (e e' : Entity) : Prop where
  sameNames : e.SameNames e'
  relations : e'.relations = e.relations
  indices : e'.indices = e.indices
  uniques : e'.uniques = e.uniques

namespace Entity.SameConstraints

theorem refl (e : Entity) : e.SameConstraints e := ⟨.refl e, rfl, rfl, rfl⟩

theorem trans (h : e.SameConstraints e') (h' : e'.SameConstraints e'') : e.SameConstraints e'' :=
  ⟨h.sameNames.trans h'.sameNames, h'.relations.trans h.relations, h'.indices.trans h.indices,
    h'.uniques.trans h.uniques⟩

theorem propagateTo (b : Behavior) (e : Entity) : e.SameConstraints (Database.propagateTo b e) := by
  rw [Database.propagateTo_frame]
  exact ⟨⟨rfl, rfl⟩, rfl, rfl, rfl⟩

end Entity.SameConstraints

theorem Timestampable.sameConstraints_addColumns (b : Behavior) (columns : List (String × String)) (e₀ : Entity) :
    Keeps e₀.SameConstraints (addColumns b columns) := by
  refine keeps_addColumns_of (fun e e' f _ h ha => h.trans ?_) b columns
  obtain ⟨-, -, rfl⟩ := Entity.addField_eq_ok ha
  exact ⟨⟨rfl, rfl⟩, rfl, rfl, rfl⟩

theorem Timestampable.sameConstraints_onEntity (b : Behavior) (name : String) (db : Database) :
    Keeps (db.Related Entity.SameConstraints) (onEntity b name) :=
  keeps_onEntity_of (sameConstraints_addColumns b columns) name db

theorem Effect.Benign.respects {effect : Effect} {P : Database → Prop} (h : effect.Benign)
    (hP : ∀ s t : Database, P s → s.Related Entity.SameConstraints t → P t) : effect.Respects P where
  onDatabase b := by
    rw [h.onDatabase]
    refine .succeed fun s hs => hP s _ hs ?_
    exact Database.Related.map (.refl Entity.SameConstraints.refl s) fun _ y hy => hy.trans (.propagateTo b y)
  onEntity b name := by
    rcases h.onEntity with h | h
    · rw [h]
      intro s hs
      exact hP s _ hs (Timestampable.sameConstraints_onEntity b name s s (.refl Entity.SameConstraints.refl s))
    · rw [h]
      exact .pure

theorem Schedule.sameConstraints_markApplied (slot : Schedule.Slot) (s : Database) :
    s.Related Entity.SameConstraints (Schedule.markApplied slot s) :=
  Database.Related.modifyEntityAt (.refl Entity.SameConstraints.refl s) fun _ _ _ _ h =>
    h.trans ⟨⟨rfl, rfl⟩, rfl, rfl, rfl⟩

theorem Database.sameConstraints_of_applyBehaviors (h : Database.applyBehaviors .builtins db = .ok () t) :
    db.Related Entity.SameConstraints t := by
  have hP (s t : Database) (hs : db.Related Entity.SameConstraints s) (ht : s.Related Entity.SameConstraints t) :
      db.Related Entity.SameConstraints t := Related.trans (fun _ _ _ hxy hyz => hxy.trans hyz) hs ht
  have hr : Registry.builtins.Respects (db.Related Entity.SameConstraints) :=
    fun b => (Registry.benign_builtins b).respects hP
  exact (hr.keeps_applyBehaviors_of fun s slot hs =>
    hP s _ hs (Schedule.sameConstraints_markApplied slot s)).of_ok h
    (.refl Entity.SameConstraints.refl db)

def Entity.OfIndices (P : Entity → Prop) : Prop :=
  ∀ e e' : Entity, e'.indices = e.indices → e'.uniques = e.uniques → P e → P e'

structure Entity.Carries (P : Entity → Prop) (tables : String → Option String) (e e' : Entity) : Prop where
  extension : e.Extends tables e'
  property : P e → P e'

theorem Entity.absorbsReferences_carries {P : Entity → Prop} (hP : Entity.OfIndices P) :
    Entity.AbsorbsReferences tables (Entity.Carries P tables) where
  sameNames h := h.extension.sameNames
  fullTable h := h.extension.fullTable_eq
  relations h := h.extension.relations
  mark {_ e} name h :=
    ⟨(Entity.absorbs_extends 0 tables).mark name h.extension, fun hp => hP e _ rfl rfl (h.property hp)⟩
  addField {_ e _ _} hf h ha := by
    refine ⟨(Entity.absorbs_extends 0 tables).addField hf h.extension ha, fun hp => ?_⟩
    obtain ⟨-, -, rfl⟩ := Entity.addField_eq_ok ha
    exact hP e _ rfl rfl (h.property hp)
  modifyRelationAt {_ e _ _} h hf hl :=
    ⟨(Entity.absorbs_extends 0 tables).modifyRelationAt h.extension hf hl, fun hp =>
      hP e _ rfl rfl (h.property hp)⟩

theorem Finalization.carries_settleAll {P : Entity → Prop} {heavy : Bool} (hP : Entity.OfIndices P)
    (hs : Keeps P (settleEntity p heavy)) (names : List String) :
    Keeps (db.Related (Entity.Carries P db.tableOf?)) (settleAll p heavy names) := by
  refine (Entity.absorbsReferences_carries hP).keeps_settleAll_of (fun e₀ e h => ?_) names
  exact ⟨keeps_settleEntity p heavy e h.extension, fun hp => hs e (h.property hp)⟩

/-- The index stands for a foreign key that the engine of the entity cannot keep. -/
structure Index.StandsIn (p : Platform) (e : Entity) (i : Index) : Prop where
  dialect : p.dialect = .mysql
  engine : p.usesForeignKeyEngine e = false
  name : (∃ relation count, i.givenName = some (Finalization.referencedIndexName p relation count)) ∨
    ∃ r ∈ e.relations, i.givenName = some (Finalization.foreignIndexName r.name)

theorem Entity.Decorated.standsIn_iff (h : e.Decorated e') : i.StandsIn p e' ↔ i.StandsIn p e := by
  have hengine : p.usesForeignKeyEngine e' = p.usesForeignKeyEngine e :=
    p.usesForeignKeyEngine_of_vendor (by rw [h.frame])
  constructor
  · exact fun hi => ⟨hi.dialect, hengine.symm.trans hi.engine, h.relations_eq ▸ hi.name⟩
  · exact fun hi => ⟨hi.dialect, hengine.trans hi.engine, h.relations_eq.symm ▸ hi.name⟩

structure Entity.Indexed (p : Platform) (e e' : Entity) : Prop where
  decorated : e.Decorated e'
  indices : Grows Eq (Index.StandsIn p e) e.indices e'.indices
  distinct : e.indexNames.Nodup → e'.indexNames.Nodup

namespace Entity.Indexed

theorem refl (e : Entity) : e.Indexed p e := ⟨.refl e, .refl (fun _ => rfl) _, id⟩

theorem trans (h : e.Indexed p e') (h' : e'.Indexed p e'') : e.Indexed p e'' where
  decorated := h.decorated.trans h'.decorated
  indices := h.indices.trans (fun _ _ _ => Eq.trans) (fun _ _ hi hij => hij ▸ hi)
    (h'.indices.imp (fun _ _ hij => hij) fun _ => h.decorated.standsIn_iff.1)
  distinct := h'.distinct ∘ h.distinct

theorem addIndex (hi : i.StandsIn p e) (h : e.addIndex i = .ok e') : e.Indexed p e' := by
  obtain ⟨j, hj, rfl⟩ := addIndex_eq_ok h
  refine ⟨⟨rfl, (Grows.refl (fun _ => rfl) _).append trivial⟩, (Grows.refl (fun _ => rfl) _).append ?_,
    nodup_of_admitIndex (perm_addIndex h)⟩
  rw [(admitIndex_eq_ok hj).1]
  exact ⟨hi.dialect, hi.engine, hi.name⟩

theorem of_resequenced (h : e.Resequenced e') : e.Indexed p e' := by
  rw [h]
  exact ⟨⟨rfl, .refl (fun _ => rfl) _⟩, .refl (fun _ => rfl) _, id⟩

end Entity.Indexed

namespace Finalization

theorem forall_relationIndices {P : Index → Prop}
    (hreferenced : ∀ r : Relation, ∀ n, P (Additions.planned (referencedIndexName p r.name n) r.foreignFields))
    (hlocal : ∀ r ∈ e.relations, P (Additions.planned (foreignIndexName r.name) r.localFields)) :
    ∀ i ∈ relationIndices p db e, P i := by
  have hstart : Additions.Sound (coveredParts e) P { covered := coveredParts e } :=
    ⟨fun text ht => .inl ht, by simp⟩
  have hfrom : Additions.Sound (coveredParts e) P
      (coverReferenced p 0 { covered := coveredParts e } (e.referrers.filterMap db.relation?)) :=
    (covering_coverReferenced hstart rfl fun _ r _ _ => hreferenced r _).sound
  exact (covering_coverLocal hfrom hlocal).sound.indices

theorem standsIn_of_mem_relationIndices (hd : p.dialect = .mysql) (hu : p.usesForeignKeyEngine e = false)
    (hi : i ∈ relationIndices p db e) : i.StandsIn p e := by
  apply forall_relationIndices (P := Index.StandsIn p e) _ _ i hi
  · exact fun r n => ⟨hd, hu, .inl ⟨r.name, n, rfl⟩⟩
  · exact fun r hr => ⟨hd, hu, .inr ⟨r, hr, rfl⟩⟩

theorem indexed_addNewIndices {planned : List Index} (hp : ∀ i ∈ planned, i.StandsIn p e)
    (h : addNewIndices planned e = .ok () e') : e.Indexed p e' := by
  induction planned generalizing e with
  | nil =>
      cases h
      exact .refl _
  | cons i rest ih =>
      obtain ⟨_, x, hx, h⟩ := bind_eq_ok_iff.1 h
      obtain ⟨hi, hrest⟩ := List.forall_mem_cons.1 hp
      have hex : e.Indexed p x := by
        have hx := attempt_eq_ok_iff.1 hx
        split at hx
        · obtain rfl := Except.ok.inj hx
          exact .refl _
        · exact .addIndex hi hx
      exact hex.trans (ih (fun j hj => hex.decorated.standsIn_iff.2 (hrest j hj)) h)

theorem indexed_indexRelations (hd : p.dialect = .mysql) (h : indexRelations p name s = .ok () t) :
    s.Related (Entity.Indexed p) t := by
  rcases indexRelations_eq_ok h with ⟨-, rfl⟩ | ⟨e, e', he, hu, hadd, rfl⟩
  · exact .refl Entity.Indexed.refl t
  · refine Database.Related.of_modifyEntity Entity.Indexed.refl fun x hx => ?_
    obtain rfl := Option.some.inj (he.symm.trans hx)
    exact indexed_addNewIndices (fun i hi => standsIn_of_mem_relationIndices hd hu hi) hadd

theorem indexed_indexAllRelations {names : List String} (hd : p.dialect = .mysql)
    (h : indexAllRelations p names s = .ok () t) : s.Related (Entity.Indexed p) t := by
  induction names generalizing s with
  | nil =>
      cases h
      exact .refl Entity.Indexed.refl _
  | cons name rest ih =>
      obtain ⟨_, u, hu, h⟩ := bind_eq_ok_iff.1 h
      exact Database.Related.trans (fun _ _ _ hxy hyz => hxy.trans hyz) (indexed_indexRelations hd hu) (ih h)

theorem indexed_dialectPass {names : List String} (h : dialectPass p names s = .ok () t) :
    s.Related (Entity.Indexed p) t := by
  cases hd : p.dialect with
  | mysql =>
      simp only [dialectPass, hd] at h
      exact indexed_indexAllRelations hd h
  | postgres =>
      simp only [dialectPass, hd] at h
      cases h
      rw [chooseSequences_eq]
      have hx := resequenced_foldl (choices p {} names s) s
      exact ⟨hx.frame, hx.entities.imp fun _ _ => .of_resequenced⟩
  | generic | sqlite =>
      simp only [dialectPass, hd] at h
      cases h
      exact .refl Entity.Indexed.refl _

end Finalization

end Tablecraft
