import Tablecraft.Proofs.Finalization.Extension

namespace Tablecraft

open List Edit

variable {tables : String → Option String} {e e' foreign : Entity} {r s : Relation}

structure Relation.Settled (tables : String → Option String) (e : Entity) (r : Relation) : Prop where
  references : r.references ≠ []
  localFields : ∀ name ∈ r.localFields, e.hasField name = true
  table : ∃ table, tables r.foreignEntity = some table ∧ r.foreignTable = some table

theorem Relation.Settled.of_extends (h : r.Settled tables e) (hx : e.Extends tables e')
    (hk : r.Kept tables s) : s.Settled tables e' := by
  have hr := hk.references h.references
  obtain ⟨table, ht, hf⟩ := h.table
  refine ⟨hr ▸ h.references, fun name hn => ?_, table, ?_, ?_⟩
  · rw [Relation.localFields, hr] at hn
    exact hx.hasField (h.localFields name hn)
  · rw [hk.foreignEntity_eq, ht]
  · rcases hk.table with hs | hs
    · rw [hs, hf]
    · rw [hs, ht]

def Database.SettledAt (db : Database) (i k : Nat) : Prop :=
  ∀ e r, db.entities[i]? = some e → e.relations[k]? = some r → r.Settled db.tableOf? e

theorem Database.SettledAt.of_extends {db db' : Database} {i k : Nat} (h : db.SettledAt i k)
    (hx : db.Extends db') : db'.SettledAt i k := by
  intro e' r' he' hr'
  obtain ⟨e, he, hxe⟩ := FirstMatch.exists_of_getElem?' hx.entities he'
  obtain ⟨r, hr, hk⟩ := FirstMatch.exists_of_getElem?' hxe.relations hr'
  rw [hx.tableOf?_eq]
  exact (h e r he hr).of_extends hxe hk

namespace Finalization

theorem hasField_of_checkLocalFields (h : checkLocalFields e r = .ok ()) :
    ∀ name ∈ r.localFields, e.hasField name = true := by
  unfold checkLocalFields at h
  split at h
  · cases h
  · rename_i hn
    simpa using List.find?_eq_none.1 hn

theorem ne_nil_of_synthesizeAll {fields : List (Field × String)}
    (h : synthesizeAll e foreign r = .ok fields) : fields ≠ [] := by
  obtain ⟨hn, hf⟩ := synthesizeAll_eq_ok h
  rintro rfl
  exact hn (List.forall₂_nil_right_iff.1 hf)

/-- The relation gains the pairs in order, and their local fields are there. -/
theorem addReferences_eq_ok {k : Nat} {fields : List (Field × String)} (hk : e.relations[k]? = some r)
    (h : addReferences k fields e = .ok () e') :
    e'.relations[k]? =
        some { r with references := r.references ++ fields.map fun p => (p.1.name, p.2) } ∧
      (∀ name, e.hasField name = true → e'.hasField name = true) ∧
      ∀ p ∈ fields, e'.hasField p.1.name = true := by
  induction fields generalizing e r with
  | nil =>
      cases h
      exact ⟨by simpa using hk, fun _ hn => hn, by simp⟩
  | cons p rest ih =>
      obtain ⟨_, e₁, h₁, h⟩ := bind_eq_ok_iff.1 h
      obtain ⟨e₂, h₂, he⟩ := except_bind_eq_ok_iff.1 (attempt_eq_ok_iff.1 h₁)
      obtain ⟨_, _, rfl⟩ := Entity.addField_eq_ok h₂
      obtain rfl := Except.ok.inj he
      have hk₁ : ((e.appendField p.1).modifyRelationAt k fun r => r.addReference p.1.name p.2).relations[k]?
          = some (r.addReference p.1.name p.2) := by
        simp [Entity.modifyRelationAt, Entity.appendField, hk]
      obtain ⟨hr, hmono, hf⟩ := ih hk₁ h
      have hkept (name : String) (hn : name = p.1.name ∨ e.hasField name = true) :
          e'.hasField name = true := by
        refine hmono name ?_
        rw [Entity.hasField_iff] at hn ⊢
        simpa [Entity.fieldNames, Entity.modifyRelationAt, Entity.appendField, or_comm] using hn
      refine ⟨?_, fun name hn => hkept name (.inr hn), ?_⟩
      · simpa [Relation.addReference] using hr
      · exact List.forall_mem_cons.2 ⟨hkept _ (.inl rfl), hf⟩

theorem relations_markCarriers (names : List String) (e : Entity) :
    (markCarriers names e).relations = e.relations := by
  unfold markCarriers
  induction names generalizing e with
  | nil => rfl
  | cons name rest ih => rw [List.foldl_cons, ih, Entity.modifyField]

theorem settled_setForeignTable {k : Nat} (hk : e.relations[k]? = some r) (hr : r.references ≠ [])
    (hl : ∀ name ∈ r.localFields, e.hasField name = true)
    (ht : tables r.foreignEntity = some foreign.fullTable)
    (h : setForeignTable k foreign e = .ok () e') :
    ∃ r', e'.relations[k]? = some r' ∧ r'.Settled tables e' := by
  cases h
  refine ⟨{ r with foreignTable := some foreign.fullTable }, ?_, hr, hl, foreign.fullTable, ht, rfl⟩
  simp [Entity.modifyRelationAt, hk]

theorem settled_of_settleReferences {k : Nat} {edit : Edit Entity Unit}
    (hk : e.relations[k]? = some r) (ht : tables r.foreignEntity = some foreign.fullTable)
    (h : settleReferences e foreign k r = .ok edit) (he : edit e = .ok () e') :
    ∃ r', e'.relations[k]? = some r' ∧ r'.Settled tables e' := by
  obtain ⟨hr, hc, rfl⟩ | ⟨fields, hn, hf, rfl⟩ := settleReferences_cases h
  · obtain ⟨_, e₁, h₁, h₂⟩ := bind_eq_ok_iff.1 he
    cases h₁
    have hx : e.Extends tables _ := extends_markCarriers (carriers e foreign r) e
    have hl := hasField_of_checkLocalFields hc
    refine settled_setForeignTable ?_ hr (fun name hn => hx.hasField (hl name hn)) ht h₂
    rw [relations_markCarriers, hk]
  · obtain ⟨_, e₁, h₁, h₂⟩ := bind_eq_ok_iff.1 he
    obtain ⟨hr, hmono, hl⟩ := addReferences_eq_ok hk h₁
    refine settled_setForeignTable hr (by simp [ne_nil_of_synthesizeAll hf]) (fun name hm => ?_) ht h₂
    obtain ⟨pair, hp, rfl⟩ : ∃ p ∈ fields, p.1.name = name := by
      simpa [Relation.localFields, hn] using hm
    exact hl pair hp

theorem editAt_eq_ok {s t : Database} {i : Nat} {edit : Edit Entity Unit}
    (hi : s.entities[i]? = some e) (h : editAt i edit s = .ok () t) :
    ∃ e', edit e = .ok () e' ∧ t = s.modifyEntityAt i fun _ => e' := by
  unfold editAt at h
  rw [hi] at h
  cases he : edit e with
  | error fault e' => simp [he] at h
  | ok _ e' => exact ⟨e', rfl, by simpa [he, eq_comm] using h⟩

theorem settledAt_of_settleRelation {s t : Database} {i k : Nat} (h : settleRelation i k s = .ok () t) :
    t.SettledAt i k := by
  rcases settleRelation_cases i k s with ⟨_, hc⟩ | ⟨hn, hc⟩ | ⟨e, r, foreign, edit, hi, hk, hf, he, hc⟩
  · rw [hc] at h
    cases h
  · rw [hc] at h
    cases h
    intro e r he hr
    simp [hn e he] at hr
  · have hx := (keeps_settleRelation i k).of_ok h (Database.Extends.refl s)
    rw [hc] at h
    obtain ⟨e₁, h₁, rfl⟩ := editAt_eq_ok hi h
    have ht : s.tableOf? r.foreignEntity = some foreign.fullTable := by
      rw [Database.tableOf?, hf, Option.map_some]
    obtain ⟨r₁, hk₁, hs⟩ := settled_of_settleReferences hk ht he h₁
    intro e' r' he' hr'
    obtain rfl : e₁ = e' := by simpa [Database.modifyEntityAt, hi] using he'
    obtain rfl : r₁ = r' := by simpa [hk₁] using hr'
    -- the edit ran in `s`, whose tables are those of `t`
    exact hx.tableOf?_eq ▸ hs

theorem settledAt_of_settleRelations {i : Nat} {relations : List Nat} {s t : Database}
    (h : settleRelations i relations s = .ok () t) : ∀ k ∈ relations, t.SettledAt i k := by
  induction relations generalizing s with
  | nil => simp
  | cons k rest ih =>
      obtain ⟨_, u, hu, ht⟩ := bind_eq_ok_iff.1 h
      have hx := (keeps_settleRelations i rest).of_ok ht (Database.Extends.refl u)
      exact List.forall_mem_cons.2 ⟨(settledAt_of_settleRelation hu).of_extends hx, ih ht⟩

theorem settledAt_of_settleRelationsOf {name : String} {s t : Database} {i : Nat}
    (h : settleRelationsOf name s = .ok () t) (hi : s.position? name = some i) (k : Nat) :
    t.SettledAt i k := by
  intro e' r' he' hr'
  have hx := (keeps_settleRelationsOf name).of_ok h (Database.Extends.refl s)
  obtain ⟨e, he, hxe⟩ := FirstMatch.exists_of_getElem?' hx.entities he'
  obtain ⟨r, hr, _⟩ := FirstMatch.exists_of_getElem?' hxe.relations hr'
  have hl : k ∈ List.range e.relations.length :=
    List.mem_range.2 (List.getElem?_eq_some_iff.1 hr).1
  simp only [settleRelationsOf, hi, he] at h
  exact settledAt_of_settleRelations h k hl e' r' he' hr'

theorem settledAt_of_settleAll {p : Platform} {heavyIndexing : Bool} {names : List String}
    {s t : Database} (h : settleAll p heavyIndexing names s = .ok () t) :
    ∀ name ∈ names, ∀ i k, s.position? name = some i → t.SettledAt i k := by
  induction names generalizing s with
  | nil => simp
  | cons name rest ih =>
      obtain ⟨_, v, hv, ht⟩ := bind_eq_ok_iff.1 h
      obtain ⟨_, u, hu, hv'⟩ := bind_eq_ok_iff.1 hv
      have hsv := (keeps_settle p heavyIndexing name).of_ok hv (Database.Extends.refl s)
      have hsu := (Database.Extends.keeps_editEntity name fun _ => keeps_settleEntity p heavyIndexing).of_ok hu
        (Database.Extends.refl s)
      have hvt := (keeps_settleAll p heavyIndexing rest).of_ok ht (Database.Extends.refl v)
      -- the entity is settled in `v`, and the rest of the sweep only extends `v`
      refine List.forall_mem_cons.2 ⟨fun i k hi => ?_, fun other ho i k hi => ?_⟩
      · rw [← Database.position?_congr hsu.sameNames] at hi
        exact (settledAt_of_settleRelationsOf hv' hi k).of_extends hvt
      · rw [← Database.position?_congr hsv.sameNames] at hi
        exact ih ht other ho i k hi

/-- After the sweep over all entities every relation is settled. -/
theorem settled_of_settleAll {p : Platform} {heavyIndexing : Bool} {s t : Database} (hs : s.Addressed)
    (h : settleAll p heavyIndexing s.entityNames s = .ok () t) :
    ∀ e ∈ t.entities, ∀ r ∈ e.relations, r.Settled t.tableOf? e := by
  intro e he r hr
  have hx := (keeps_settleAll p heavyIndexing s.entityNames).of_ok h (Database.Extends.refl s)
  obtain ⟨i, hi⟩ := List.mem_iff_getElem?.1 he
  obtain ⟨k, hk⟩ := List.mem_iff_getElem?.1 hr
  obtain ⟨e₀, h₀, _⟩ := FirstMatch.exists_of_getElem?' hx.entities hi
  have hn : e₀.name ∈ s.entityNames := List.mem_map_of_mem (List.mem_of_getElem? h₀)
  exact settledAt_of_settleAll h e₀.name hn i k (hs.position?_eq h₀) e r hi hk

end Finalization

end Tablecraft
