import Tablecraft.Finalization.Basic
import Tablecraft.Proofs.Model.ExtensionSteps

namespace Tablecraft

open List Edit

variable {tables : String → Option String} {e e' e₀ foreign : Entity} {db : Database}

structure Entity.AbsorbsReferences (tables : String → Option String) (R : Entity → Entity → Prop) : Prop where
  sameNames {e₀ e : Entity} : R e₀ e → e₀.SameNames e
  fullTable {e₀ e : Entity} : R e₀ e → e.fullTable = e₀.fullTable
  relations {e₀ e : Entity} : R e₀ e → Forall₂ (Relation.Kept tables) e₀.relations e.relations
  mark {e₀ e : Entity} (name : String) :
    R e₀ e → R e₀ (e.modifyField name fun f => { f with implementationDetail := true })
  addField {e₀ e e' : Entity} {f : Field} : f.Plain → R e₀ e → e.addField f = .ok e' → R e₀ e'
  modifyRelationAt {e₀ e : Entity} {k : Nat} {f : Relation → Relation} : R e₀ e →
    (∀ r s, e₀.relations[k]? = some r → r.Kept tables s → r.Kept tables (f s)) →
    (∀ s, (f s).nameLimit = s.nameLimit) → R e₀ (e.modifyRelationAt k f)

structure Entity.Absorbs (limit : Nat) (tables : String → Option String) (R : Entity → Entity → Prop) : Prop
    extends Entity.AbsorbsReferences tables R where
  setNameLimit {e₀ e : Entity} : R e₀ e → R e₀ (e.setNameLimit limit)
  addIndex {e₀ e e' : Entity} {i : Index} : R e₀ e → e.addIndex i = .ok e' → R e₀ e'
  addUnique {e₀ e e' : Entity} {i : Index} : R e₀ e → e.addUnique i = .ok e' → R e₀ e'
  setIdMethod {e₀ e : Entity} : R e₀ e → R e₀ (e.setIdMethod .none)

/-- The property admits the constraints and the indices over fields that settling an entity adds. -/
structure Entity.Admits (P : Entity → Prop) : Prop where
  addIndex {e e' : Entity} {names : List String} : P e → e.addIndex (.ofNames names) = .ok e' → P e'
  addUnique {e e' : Entity} {names : List String} : P e → e.addUnique (.uniqueOfNames names) = .ok e' → P e'

namespace Finalization

theorem synthesizeAll_eq_ok {r : Relation} {fields : List (Field × String)}
    (h : synthesizeAll e foreign r = .ok fields) :
    foreign.primaryKey ≠ [] ∧ Forall₂ (fun key q => e.hasField (synthesize r key).name = false ∧
      q = (synthesize r key, key.name)) foreign.primaryKey fields := by
  unfold synthesizeAll at h
  split at h
  · cases h
  · rename_i hn
    refine ⟨by simpa using hn, (mapM_eq_ok_iff.1 h).imp fun key q hq => ?_⟩
    dsimp only at hq
    split at hq
    · cases hq
    · rename_i hfree
      exact ⟨by simpa using hfree, (Except.ok.inj hq).symm⟩

theorem plain_of_synthesizeAll {r : Relation} {fields : List (Field × String)}
    (h : synthesizeAll e foreign r = .ok fields) : ∀ p ∈ fields, p.1.Plain := by
  intro p hp
  obtain ⟨key, -, -, rfl⟩ := FirstMatch.exists_of_mem' (synthesizeAll_eq_ok h).2 hp
  rfl

theorem after_editAt {s : Database} {i : Nat} (hi : s.entities[i]? = some e) (edit : Edit Entity Unit) :
    (editAt i edit).after s = s.modifyEntityAt i fun _ => edit.after e := by
  cases h : edit e <;> simp [editAt, Edit.after, hi, h]

/-- A relation with pairs has its carriers marked, one without gets pairs, and either learns its table. -/
theorem settleReferences_cases {k : Nat} {r : Relation} {edit : Edit Entity Unit}
    (h : settleReferences e foreign k r = .ok edit) :
    (r.references ≠ [] ∧ checkLocalFields e r = .ok () ∧
      edit = (Edit.succeed (markCarriers (carriers e foreign r)) >>= fun _ => setForeignTable k foreign)) ∨
    ∃ fields, r.references = [] ∧ synthesizeAll e foreign r = .ok fields ∧
      edit = (addReferences k fields >>= fun _ => setForeignTable k foreign) := by
  unfold settleReferences at h
  split at h
  · rename_i hr
    obtain ⟨_, hc, h⟩ := except_bind_eq_ok_iff.1 h
    cases h
    exact .inl ⟨by simpa [Relation.hasReferences] using hr, hc, rfl⟩
  · rename_i hr
    obtain ⟨fields, hf, h⟩ := except_bind_eq_ok_iff.1 h
    cases h
    exact .inr ⟨fields, by simpa [Relation.hasReferences] using hr, hf, rfl⟩

theorem settleRelation_cases (i k : Nat) (s : Database) :
    (∃ fault, settleRelation i k s = .error fault s) ∨
      ((∀ e, s.entities[i]? = some e → e.relations[k]? = none) ∧ settleRelation i k s = .ok () s) ∨
      ∃ e r foreign edit, s.entities[i]? = some e ∧ e.relations[k]? = some r ∧
        s.entity? r.foreignEntity = some foreign ∧ settleReferences e foreign k r = .ok edit ∧
        settleRelation i k s = editAt i edit s := by
  unfold settleRelation
  cases hi : s.entities[i]? with
  | none => exact .inr (.inl ⟨by simp, rfl⟩)
  | some e =>
      cases hk : e.relations[k]? with
      | none => exact .inr (.inl ⟨by simpa using hk, by simp [hk]⟩)
      | some r =>
          cases hf : s.entity? r.foreignEntity with
          | none =>
              exact .inl ⟨.unknownEntity r.foreignEntity (.relationOf r.name e.name) s.entityNames,
                by simp [hk, foreignOf, hf]⟩
          | some foreign =>
              cases he : settleReferences e foreign k r with
              | error fault => exact .inl ⟨fault, by simp [hk, foreignOf, hf, he]⟩
              | ok edit =>
                  refine .inr (.inr ⟨e, r, foreign, edit, rfl, hk, hf, he, ?_⟩)
                  simp [hk, foreignOf, hf, he]

end Finalization

namespace Entity.Admits

open Finalization

variable {P Q : Entity → Prop} {p : Platform}

section

variable (hP : Admits P)

include hP

theorem keeps_addUniques (names : List String) : Keeps P (addUniques names) := by
  induction names with
  | nil => exact .pure
  | cons name rest ih => exact .bind (.attempt fun _ _ h ha => hP.addUnique h ha) fun _ => ih

theorem keeps_constrainUniqueFields : Keeps P constrainUniqueFields :=
  fun e h => hP.keeps_addUniques (unconstrained e) e h

theorem keeps_indexIfMissing (names : List String) : Keeps P (indexIfMissing names) := by
  refine .attempt fun e e' h ha => ?_
  split at ha
  · cases ha
    exact h
  · exact hP.addIndex h ha

theorem keeps_indexMissing (suffixes : List (List String)) : Keeps P (indexMissing suffixes) := by
  induction suffixes with
  | nil => exact .pure
  | cons names rest ih => exact .bind (hP.keeps_indexIfMissing names) fun _ => ih

theorem keeps_indexKeySuffixes : Keeps P indexKeySuffixes :=
  fun e h => hP.keeps_indexMissing (properSuffixes e.primaryKeyNames) e h

end

/-- What holds of an entity under the limit of the dialect, the additions keep. -/
theorem keeps_settleEntity (hQ : Admits Q) (hl : ∀ e, P e → Q (e.setNameLimit p.maxIdentifierLength))
    (hm : ∀ e, Q e → Q (e.setIdMethod .none)) (hp : ∀ e, Q e → P e) (heavyIndexing : Bool) :
    Keeps P (settleEntity p heavyIndexing) := by
  have hheavy : Keeps Q fun e => if e.heavyIndexing.getD heavyIndexing then indexKeySuffixes e else .ok () e := by
    intro e h
    by_cases hi : e.heavyIndexing.getD heavyIndexing = true
    · simpa [Edit.after, hi] using hQ.keeps_indexKeySuffixes e h
    · simpa [Edit.after, hi] using h
  have hid : Keeps Q (Edit.succeed settleIdMethod) := by
    refine .succeed fun e h => ?_
    unfold settleIdMethod
    split
    · exact hm e h
    · exact h
  have hrest : Keeps Q _ := .bind hQ.keeps_constrainUniqueFields fun _ => .bind hheavy fun _ => hid
  exact fun e h => hp _ (hrest _ (hl e h))

end Entity.Admits

namespace Entity.AbsorbsReferences

open Finalization

variable {R : Entity → Entity → Prop} (hR : AbsorbsReferences tables R)

include hR

theorem markCarriers (names : List String) (h : R e₀ e) : R e₀ (markCarriers names e) := by
  induction names generalizing e with
  | nil => exact h
  | cons name rest ih => exact ih (hR.mark name h)

theorem keeps_addReferences {k : Nat} (hk : ∀ r, e₀.relations[k]? = some r → r.references = [])
    {fields : List (Field × String)} (hf : ∀ p ∈ fields, p.1.Plain) : Keeps (R e₀) (addReferences k fields) := by
  induction fields with
  | nil => exact .pure
  | cons p rest ih =>
      obtain ⟨hp, hf⟩ := List.forall_mem_cons.1 hf
      refine .bind (.attempt fun e e' h ha => ?_) fun _ => ih hf
      obtain ⟨e₁, h₁, he⟩ := except_bind_eq_ok_iff.1 ha
      obtain rfl := Except.ok.inj he
      refine hR.modifyRelationAt (hR.addField hp h h₁) (fun r s hr hs => ?_) fun _ => rfl
      exact { frame := by rw [hs.frame]; rfl
              references := fun hne => absurd (hk r hr) hne
              table := hs.table }

theorem keeps_setForeignTable {k : Nat}
    (hk : ∀ r, e₀.relations[k]? = some r → tables r.foreignEntity = some foreign.fullTable) :
    Keeps (R e₀) (setForeignTable k foreign) := by
  refine .succeed fun e h => hR.modifyRelationAt h (fun r s hr hs => ?_) fun _ => rfl
  exact { frame := by rw [hs.frame]
          references := hs.references
          table := .inr (hk r hr).symm }

theorem keeps_settleReferences {k : Nat} {r : Relation} {edit : Edit Entity Unit}
    (h : settleReferences e foreign k r = .ok edit)
    (hk : ∀ r₀, e₀.relations[k]? = some r₀ →
      (r.references = [] → r₀.references = []) ∧ tables r₀.foreignEntity = some foreign.fullTable) :
    Keeps (R e₀) edit := by
  have ht := hR.keeps_setForeignTable fun r hr => (hk r hr).2
  obtain ⟨-, -, rfl⟩ | ⟨fields, hr, hf, rfl⟩ := settleReferences_cases h
  · exact .bind (.succeed fun e h => hR.markCarriers _ h) fun _ => ht
  · exact .bind (hR.keeps_addReferences (fun r₀ h₀ => (hk r₀ h₀).1 hr) (plain_of_synthesizeAll hf)) fun _ => ht

end Entity.AbsorbsReferences

namespace Entity.Absorbs

open Finalization

variable {limit : Nat} {R : Entity → Entity → Prop} (hR : Absorbs limit tables R)

include hR

theorem admits (e₀ : Entity) : Admits (R e₀) := ⟨fun h ha => hR.addIndex h ha, fun h ha => hR.addUnique h ha⟩

theorem keeps_constrainUniqueFields : Keeps (R e₀) constrainUniqueFields :=
  (hR.admits e₀).keeps_constrainUniqueFields

theorem keeps_indexMissing (suffixes : List (List String)) : Keeps (R e₀) (indexMissing suffixes) :=
  (hR.admits e₀).keeps_indexMissing suffixes

theorem keeps_indexKeySuffixes : Keeps (R e₀) indexKeySuffixes := (hR.admits e₀).keeps_indexKeySuffixes

theorem settleIdMethod (h : R e₀ e) : R e₀ (settleIdMethod e) := by
  unfold Finalization.settleIdMethod
  split
  · exact hR.setIdMethod h
  · exact h

end Entity.Absorbs

namespace Finalization

/-- A relation between entities outlasts the turn of a relation if the edits that settle it keep it. -/
theorem keeps_settleRelation_of {R : Entity → Entity → Prop} {i k : Nat}
    (hR : ∀ x y, R x y → Forall₂ (Relation.Kept db.tableOf?) x.relations y.relations)
    (hedit : ∀ (s : Database) (e₀ e foreign : Entity) (r₀ r : Relation) (edit : Edit Entity Unit),
      db.Related R s →
      e₀.relations[k]? = some r₀ → r₀.Kept db.tableOf? r → s.entity? r₀.foreignEntity = some foreign →
      settleReferences e foreign k r = .ok edit → R e₀ e → R e₀ (edit.after e)) :
    Keeps (db.Related R) (settleRelation i k) := by
  intro s hs
  rcases settleRelation_cases i k s with ⟨_, h⟩ | ⟨_, h⟩ | ⟨e, r, foreign, edit, hi, hk, hf, he, h⟩
  · simpa only [Edit.after, h] using hs
  · simpa only [Edit.after, h] using hs
  · have ha : (settleRelation i k).after s = (editAt i edit).after s := by simp only [Edit.after, h]
    rw [ha, after_editAt hi]
    refine Database.Related.modifyEntityAt hs fun e₀ e' h₀ h' hx => ?_
    obtain rfl : e = e' := by simpa [hi] using h'
    obtain ⟨r₀, hr, hkept⟩ := FirstMatch.exists_of_getElem?' (hR e₀ e hx) hk
    rw [hkept.foreignEntity_eq] at hf
    exact hedit s e₀ e foreign r₀ r edit hs hr hkept hf he hx

section

variable {P : Database → Prop} (hP : ∀ i k, Keeps P (settleRelation i k))

include hP

theorem keeps_settleRelations_of_each (i : Nat) (relations : List Nat) :
    Keeps P (settleRelations i relations) := by
  induction relations with
  | nil => exact .pure
  | cons k rest ih => exact .bind (hP i k) fun _ => ih

theorem keeps_settleRelationsOf_of_each (name : String) : Keeps P (settleRelationsOf name) := by
  intro s hs
  cases hp : s.position? name with
  | none => simpa [settleRelationsOf, Edit.after, hp] using hs
  | some i =>
      cases hi : s.entities[i]? with
      | none => simpa [settleRelationsOf, Edit.after, hp, hi] using hs
      | some e =>
          have h := keeps_settleRelations_of_each hP i (List.range e.relations.length) s hs
          simpa [settleRelationsOf, Edit.after, hp, hi] using h

variable {p : Platform} {heavyIndexing : Bool}
  (hs : ∀ name, Keeps P (Database.editEntity name (settleEntity p heavyIndexing)))

include hs

theorem keeps_settle_of_each (name : String) : Keeps P (settle p heavyIndexing name) :=
  .bind (hs name) fun _ => keeps_settleRelationsOf_of_each hP name

theorem keeps_settleAll_of_each (names : List String) : Keeps P (settleAll p heavyIndexing names) := by
  induction names with
  | nil => exact .pure
  | cons name rest ih => exact .bind (keeps_settle_of_each hP hs name) fun _ => ih

end

end Finalization

namespace Entity.AbsorbsReferences

open Finalization

variable {R : Entity → Entity → Prop} {p : Platform} (hR : AbsorbsReferences db.tableOf? R)

include hR

theorem keeps_settleRelation (i k : Nat) : Keeps (db.Related R) (settleRelation i k) := by
  refine keeps_settleRelation_of
    (fun _ _ h => hR.relations h) fun s e₀ e foreign r₀ r edit hs hr hk hf he hx => ?_
  refine hR.keeps_settleReferences he (fun r' hr' => ?_) e hx
  obtain rfl : r₀ = r' := Option.some.inj (hr.symm.trans hr')
  have ht := Database.Related.tableOf?_eq (fun _ _ h => hR.sameNames h) (fun _ _ h => hR.fullTable h) hs
  exact ⟨hk.references_eq_nil, by rw [← ht, Database.tableOf?, hf, Option.map_some]⟩

theorem keeps_settleRelations (i : Nat) (relations : List Nat) :
    Keeps (db.Related R) (settleRelations i relations) :=
  keeps_settleRelations_of_each hR.keeps_settleRelation i relations

theorem keeps_settleRelationsOf (name : String) : Keeps (db.Related R) (settleRelationsOf name) :=
  keeps_settleRelationsOf_of_each hR.keeps_settleRelation name

variable {heavyIndexing : Bool} (hs : ∀ e₀, Keeps (R e₀) (settleEntity p heavyIndexing))

include hs

theorem keeps_settle_of (name : String) : Keeps (db.Related R) (settle p heavyIndexing name) :=
  keeps_settle_of_each hR.keeps_settleRelation (fun name => Database.Related.keeps_editEntity name hs) name

theorem keeps_settleAll_of (names : List String) : Keeps (db.Related R) (settleAll p heavyIndexing names) :=
  keeps_settleAll_of_each hR.keeps_settleRelation (fun name => Database.Related.keeps_editEntity name hs) names

end Entity.AbsorbsReferences

namespace Entity.Absorbs

open Finalization

variable {R : Entity → Entity → Prop} {p : Platform}

theorem keeps_settleEntity (hR : Absorbs p.maxIdentifierLength tables R) (heavyIndexing : Bool) :
    Keeps (R e₀) (settleEntity p heavyIndexing) :=
  (hR.admits e₀).keeps_settleEntity (fun _ h => hR.setNameLimit h) (fun _ h => hR.setIdMethod h) (fun _ h => h)
    heavyIndexing

theorem keeps_settle (hR : Absorbs p.maxIdentifierLength db.tableOf? R) (heavyIndexing : Bool) (name : String) :
    Keeps (db.Related R) (settle p heavyIndexing name) :=
  hR.keeps_settle_of (fun _ => hR.keeps_settleEntity heavyIndexing) name

theorem keeps_settleAll (hR : Absorbs p.maxIdentifierLength db.tableOf? R) (heavyIndexing : Bool)
    (names : List String) : Keeps (db.Related R) (settleAll p heavyIndexing names) :=
  hR.keeps_settleAll_of (fun _ => hR.keeps_settleEntity heavyIndexing) names

end Entity.Absorbs

theorem Entity.absorbs_extends (limit : Nat) (tables : String → Option String) :
    Entity.Absorbs limit tables (Entity.Extends tables) where
  sameNames h := h.sameNames
  fullTable h := h.fullTable_eq
  relations h := h.relations
  setNameLimit h := h.trans (.setNameLimit _ _)
  addIndex h ha := h.trans (.addIndex ha)
  addUnique h ha := h.trans (.addUnique ha)
  setIdMethod h := h.trans { Entity.Extends.refl _ with frame := rfl }
  mark name h := by
    refine h.trans (Entity.Extends.keepFields ?_)
    refine FirstMatch.forall₂_modify (forall₂_same.2 fun f _ => .refl f) _ _ fun f g h => ?_
    rw [h]
    rfl
  addField hf h ha := h.trans (.addField hf ha)
  modifyRelationAt h hf _ := h.modifyRelationAt hf

namespace Finalization

theorem extends_markCarriers (names : List String) (e : Entity) : e.Extends tables (markCarriers names e) :=
  (Entity.absorbs_extends 0 tables).markCarriers names (.refl e)

theorem keeps_settleEntity (p : Platform) (heavyIndexing : Bool) :
    Keeps (e₀.Extends tables) (settleEntity p heavyIndexing) :=
  (Entity.absorbs_extends _ tables).keeps_settleEntity heavyIndexing

theorem keeps_settleRelation (i k : Nat) : Keeps db.Extends (settleRelation i k) :=
  (Entity.absorbs_extends 0 db.tableOf?).keeps_settleRelation i k

theorem keeps_settleRelations (i : Nat) (relations : List Nat) : Keeps db.Extends (settleRelations i relations) :=
  (Entity.absorbs_extends 0 db.tableOf?).keeps_settleRelations i relations

theorem keeps_settleRelationsOf (name : String) : Keeps db.Extends (settleRelationsOf name) :=
  (Entity.absorbs_extends 0 db.tableOf?).keeps_settleRelationsOf name

theorem keeps_settle (p : Platform) (heavyIndexing : Bool) (name : String) :
    Keeps db.Extends (settle p heavyIndexing name) :=
  (Entity.absorbs_extends _ db.tableOf?).keeps_settle heavyIndexing name

theorem keeps_settleAll (p : Platform) (heavyIndexing : Bool) (names : List String) :
    Keeps db.Extends (settleAll p heavyIndexing names) :=
  (Entity.absorbs_extends _ db.tableOf?).keeps_settleAll heavyIndexing names

end Finalization

end Tablecraft
