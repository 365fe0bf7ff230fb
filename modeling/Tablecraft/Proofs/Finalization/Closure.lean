import Tablecraft.Proofs.Finalization.Passes

namespace Tablecraft

open List Edit

variable {p : Platform} {db db' u t : Database}

/-- The relation has pairs of fields that both sides have, it knows the table of its foreign entity,
and the foreign entity and its fields know the relation. -/
structure Relation.Closed (db : Database) (e : Entity) (r : Relation) : Prop where
  references : r.references ≠ []
  lengths : r.localFields.length = r.foreignFields.length
  localFields : ∀ name ∈ r.localFields, e.hasField name = true
  foreign : ∃ foreign, db.entity? r.foreignEntity = some foreign ∧
    (∀ name ∈ r.foreignFields, foreign.hasField name = true) ∧
    r.foreignTableName = foreign.fullTable ∧ ⟨e.name, r.name⟩ ∈ foreign.referrers ∧
    ∀ f ∈ foreign.fields, f.name ∈ r.foreignFields → ⟨e.name, r.name⟩ ∈ f.referrers

def Database.RefersTo (db : Database) (ref : RelationRef) (foreign : Entity) (r : Relation) : Prop :=
  ∃ e ∈ db.entities, r ∈ e.relations ∧ ref = ⟨e.name, r.name⟩ ∧
    db.entity? r.foreignEntity = some foreign

structure Database.Closed (db : Database) : Prop where
  relations : ∀ e ∈ db.entities, ∀ r ∈ e.relations, r.Closed db e
  referrers : ∀ e ∈ db.entities, ∀ ref ∈ e.referrers, ∃ r, db.RefersTo ref e r
  fieldReferrers : ∀ e ∈ db.entities, ∀ f ∈ e.fields, ∀ ref ∈ f.referrers,
    ∃ r, db.RefersTo ref e r ∧ f.name ∈ r.foreignFields

theorem Relation.closed_of_knowsAt {e e' : Entity} {r : Relation} {i : Nat} (hu : u.Informed t)
    (he : e.Informed e') (hs : r.Settled u.tableOf? e) (hp : t.position? r.foreignEntity = some i)
    (hd : ∀ e ∈ t.entities, e.fieldNames.Nodup)
    (hk : Finalization.KnowsAt t i ⟨e'.name, r.name⟩ r.foreignFields) : r.Closed t e' := by
  obtain ⟨foreign, hi, href, hf⟩ := hk
  have hft : t.entity? r.foreignEntity = some foreign := Database.entity?_eq_some_iff.2 ⟨i, hp, hi⟩
  obtain ⟨f₀, hf₀, hx⟩ := Database.Related.entity?' (fun _ _ h => h.sameNames) hu hft
  refine ⟨hs.references, r.length_localFields, fun name hn => ?_, foreign, hft, fun name hn => ?_, ?_,
    href, fun f hm hn => ?_⟩
  · rw [Entity.hasField_iff, he.fieldNames_eq, ← Entity.hasField_iff]
    exact hs.localFields name hn
  · obtain ⟨f, hf, _⟩ := hf name hn
    exact Entity.hasField_of_field? hf
  · obtain ⟨table, ht, hr⟩ := hs.table
    rw [Database.tableOf?, hf₀, Option.map_some] at ht
    rw [Relation.foreignTableName, hr, Option.getD_some, ← Option.some.inj ht, hx.frame]
    rfl
  · obtain ⟨g, hg, hr⟩ := hf f.name hn
    have hfg := (Entity.field?_eq_some_iff (hd foreign (List.mem_of_getElem? hi))).2 ⟨hm, rfl⟩
    obtain rfl : f = g := Option.some.inj (hfg.symm.trans hg)
    exact hr

theorem Database.closed_of_registerAllRelations (ha : u.Addressed)
    (hd : ∀ e ∈ u.entities, e.fieldNames.Nodup) (hu : u.Sourced)
    (hs : ∀ e ∈ u.entities, ∀ r ∈ e.relations, r.Settled u.tableOf? e)
    (h : Finalization.registerAllRelations u.entityNames u = .ok () t) : t.Closed := by
  obtain ⟨hx, hst, _⟩ := Finalization.registerAllRelations_spec ha h
  have hk := Finalization.knowsAt_of_registerAllRelations ha h
  have hdt : ∀ e ∈ t.entities, e.fieldNames.Nodup := by
    intro e' he'
    obtain ⟨e, he, hee⟩ := FirstMatch.exists_of_mem' hx.entities he'
    rw [hee.fieldNames_eq]
    exact hd e he
  have hsource {ref : RelationRef} {i : Nat} {e : Entity} {fields : List String}
      (hi : t.entities[i]? = some e) (hp : t.PointsAt ref i fields) :
      ∃ r, t.RefersTo ref e r ∧ fields = r.foreignFields := by
    obtain ⟨o, ho, r, hr, rfl, hpos, hf⟩ := hp
    exact ⟨r, ⟨o, ho, hr, rfl, Database.entity?_eq_some_iff.2 ⟨i, hpos, hi⟩⟩, hf⟩
  refine ⟨fun e' he' r hr => ?_, fun e he ref href => ?_, fun e he f hf ref href => ?_⟩
  · obtain ⟨e, he, hee⟩ := FirstMatch.exists_of_mem' hx.entities he'
    obtain ⟨i, hp, hki⟩ := hk e' he' r hr
    exact Relation.closed_of_knowsAt hx hee (hs e he r (hee.relations_eq ▸ hr)) hp hdt hki
  · obtain ⟨i, hi⟩ := List.mem_iff_getElem?.1 he
    obtain ⟨fields, hp⟩ := (hst hu).referrers i e hi ref href
    obtain ⟨r, hr, _⟩ := hsource hi hp
    exact ⟨r, hr⟩
  · obtain ⟨i, hi⟩ := List.mem_iff_getElem?.1 he
    obtain ⟨fields, hp, hn⟩ := (hst hu).fieldReferrers i e hi f hf ref href
    obtain ⟨r, hr, rfl⟩ := hsource hi hp
    exact ⟨r, hr, hn⟩

theorem Relation.Closed.of_decorated {e e' : Entity} {r : Relation} (h : r.Closed db e)
    (hx : db.Decorated db') (he : e.Decorated e') : r.Closed db' e' := by
  obtain ⟨foreign, hf, hfields, htable, href, hrefs⟩ := h.foreign
  obtain ⟨foreign', hf', hff⟩ := Database.Related.entity? (fun _ _ h => h.sameNames) hx hf
  refine ⟨h.references, h.lengths, fun name hn => ?_, foreign', hf', fun name hn => ?_, ?_, ?_, ?_⟩
  · rw [he.hasField_eq, h.localFields name hn]
  · rw [hff.hasField_eq, hfields name hn]
  · rw [hff.fullTable_eq, htable]
  · rw [hff.referrers_eq, he.sameNames.1]
    exact href
  · rw [hff.fields_eq, he.sameNames.1]
    exact hrefs

theorem Database.RefersTo.of_decorated {ref : RelationRef} {foreign foreign' : Entity} {r : Relation}
    (h : db.RefersTo ref foreign r) (hx : db.Decorated db') (ha : db'.Addressed)
    (hf : foreign.Decorated foreign') (hm : foreign' ∈ db'.entities) : db'.RefersTo ref foreign' r := by
  obtain ⟨e, he, hr, rfl, hef⟩ := h
  obtain ⟨e', he', hee⟩ := FirstMatch.exists_of_mem hx.entities he
  obtain ⟨x, hex, hfx⟩ := Database.Related.entity? (fun _ _ h => h.sameNames) hx hef
  have hn : x.name = foreign'.name := hfx.sameNames.1.trans hf.sameNames.1.symm
  obtain rfl := ha.eq_of_name (Database.mem_of_entity? hex) hm hn
  exact ⟨e', he', hee.relations_eq ▸ hr, by rw [hee.sameNames.1], hex⟩

theorem Database.Closed.of_decorated (h : db.Closed) (ha : db.Addressed) (hx : db.Decorated db') :
    db'.Closed := by
  have ha' : db'.Addressed := Database.Related.addressed (fun _ _ h => h.sameNames) hx ha
  refine ⟨fun e' he' r hr => ?_, fun e' he' ref href => ?_, fun e' he' f hf ref href => ?_⟩
  · obtain ⟨e, he, hee⟩ := FirstMatch.exists_of_mem' hx.entities he'
    exact (h.relations e he r (hee.relations_eq ▸ hr)).of_decorated hx hee
  · obtain ⟨e, he, hee⟩ := FirstMatch.exists_of_mem' hx.entities he'
    obtain ⟨r, hr⟩ := h.referrers e he ref (hee.referrers_eq ▸ href)
    exact ⟨r, hr.of_decorated hx ha' hee he'⟩
  · obtain ⟨e, he, hee⟩ := FirstMatch.exists_of_mem' hx.entities he'
    obtain ⟨r, hr, hn⟩ := h.fieldReferrers e he f (hee.fields_eq ▸ hf) ref href
    exact ⟨r, hr.of_decorated hx ha' hee he', hn⟩

/-- References are closed in every database that is loaded and then finalized. -/
theorem closed_of_finalize {doc : SchemaDocument} (hl : LoadedFrom .builtins doc db)
    (h : (Database.finalize .builtins p).result db = .ok db') : db'.Closed := by
  obtain ⟨a, u, t, _, hu, ht, _, _, hxu, hit, hd, hfa⟩ := hl.fresh.finalize_passes Registry.additive_builtins h
  have hfu := hfa.of_extends hxu
  -- the sweep of registrations runs over the names of `a`, which are those of `u`
  have hn : u.entityNames = a.entityNames := Database.entityNames_congr hxu.sameNames
  have hc := Database.closed_of_registerAllRelations hfu.addressed
    (fun e he => (hfu.entities e he).distinct) hfu.sourced
    (Finalization.settled_of_settleAll hfa.addressed hu) (hn ▸ ht)
  exact hc.of_decorated (hit.addressed hfu.addressed) hd

theorem closed_library : ∃ db db', LoadedFrom .builtins libraryDocument db ∧
    (Database.finalize .builtins { dialect := .mysql }).result db = .ok db' ∧ db'.Closed := by
  have hf : (libraryDocument.finalized? { dialect := .mysql }).isSome = true := by decide +kernel
  obtain ⟨db', hf⟩ := Option.isSome_iff_exists.1 hf
  obtain ⟨db, hl, hr⟩ := SchemaDocument.loadedFrom_of_finalized? hf
  exact ⟨db, db', hl, hr, closed_of_finalize hl hr⟩

end Tablecraft
