import Tablecraft.Proofs.Finalization.Closure

namespace Tablecraft

open List Edit

variable {registry : Registry} {p : Platform} {db db' a u t : Database} {e foreign : Entity} {r : Relation}
  {ref : RelationRef}

namespace Database

def LeadsBack (db : Database) (ref : RelationRef) (foreign : Entity) : Prop :=
  ∃ r, db.relation? ref = some r ∧ db.entity? r.foreignEntity = some foreign

instance (db : Database) (ref : RelationRef) (foreign : Entity) : Decidable (db.LeadsBack ref foreign) :=
  decidable_of_iff (∃ r ∈ db.relation? ref, db.entity? r.foreignEntity = some foreign) Iff.rfl

/-- Relations of one name in an entity point at one entity. -/
def Unambiguous (db : Database) : Prop :=
  ∀ e ∈ db.entities, ∀ r ∈ e.relations, ∀ r' ∈ e.relations, r.name = r'.name →
    db.entity? r.foreignEntity = db.entity? r'.foreignEntity

theorem unambiguous_of_nodup (h : ∀ e ∈ db.entities, (e.relations.map (·.name)).Nodup) : db.Unambiguous := by
  intro e he r hr r' hr' hn
  rw [List.inj_on_of_nodup_map (h e he) hr hr' hn]

theorem Addressed.exists_relation? (ha : db.Addressed) (he : e ∈ db.entities) (hr : r ∈ e.relations) :
    ∃ r' ∈ e.relations, db.relation? ⟨e.name, r.name⟩ = some r' ∧ r'.name = r.name := by
  have hfound : (e.relation? r.name).isSome = true := List.find?_isSome.2 ⟨r, hr, beq_self_eq_true _⟩
  obtain ⟨r', hr'⟩ := Option.isSome_iff_exists.1 hfound
  refine ⟨r', List.mem_of_find?_eq_some hr', ?_, by simpa using List.find?_some hr'⟩
  rw [relation?, ha.entity?_eq he, Option.bind_some, hr']

theorem Unambiguous.leadsBack (hu : db.Unambiguous) (ha : db.Addressed) (h : db.RefersTo ref foreign r) :
    db.LeadsBack ref foreign := by
  obtain ⟨e, he, hr, rfl, hf⟩ := h
  obtain ⟨r', hr', hfound, hn⟩ := ha.exists_relation? he hr
  exact ⟨r', hfound, (hu e he r' hr' r hr hn).trans hf⟩

/-- Where all references are closed, referrers lead back exactly if names tell relations apart as far as
that matters. -/
theorem Closed.leadsBack_iff (hc : db.Closed) (ha : db.Addressed) :
    (∀ foreign ∈ db.entities, ∀ ref ∈ foreign.referrers, db.LeadsBack ref foreign) ↔ db.Unambiguous := by
  constructor
  · intro h e he r hr r' hr' hn
    obtain ⟨foreign, hf, -, -, href, -⟩ := (hc.relations e he r hr).foreign
    obtain ⟨foreign', hf', -, -, href', -⟩ := (hc.relations e he r' hr').foreign
    -- both entities know the same referrer, and one look-up cannot lead to two of them
    obtain ⟨s, hs, hsf⟩ := h foreign (mem_of_entity? hf) _ href
    obtain ⟨s', hs', hsf'⟩ := h foreign' (mem_of_entity? hf') _ href'
    rw [hn, hs'] at hs
    obtain rfl := Option.some.inj hs
    rw [hf, hf', ← hsf, hsf']
  · intro hu foreign hf ref href
    obtain ⟨r, hr⟩ := hc.referrers foreign hf ref href
    exact hu.leadsBack ha hr

theorem Stages.closed (h : Stages registry p db a u t db') (ha : a.Fresh) : db'.Closed := by
  have hu : u.Fresh := ha.of_extends h.extended
  have hnames : u.entityNames = a.entityNames := entityNames_congr h.extended.sameNames
  have hsettled := Finalization.settled_of_settleAll ha.addressed h.settled
  have ht : t.Closed := closed_of_registerAllRelations hu.addressed hu.named.fieldNames hu.sourced hsettled
    (hnames ▸ h.registered)
  exact ht.of_decorated (h.informed.addressed hu.addressed) h.decorated

end Database

/-- Every referrer of a finalized database was registered by a relation to its bearer. All of them lead back
to one exactly if relations of one name in an entity point at one entity, and so if their names differ. -/
theorem referrers_of_finalize {doc : SchemaDocument} (hr : registry.Respects Database.Fresh)
    (hl : LoadedFrom registry doc db) (h : (Database.finalize registry p).result db = .ok db') :
    (∀ foreign ∈ db'.entities, ∀ ref ∈ foreign.referrers, ∃ r, db'.RefersTo ref foreign r) ∧
      ((∀ foreign ∈ db'.entities, ∀ ref ∈ foreign.referrers, db'.LeadsBack ref foreign) ↔ db'.Unambiguous) ∧
      ((∀ e ∈ db'.entities, (e.relations.map (·.name)).Nodup) → db'.Unambiguous) := by
  obtain ⟨a, u, t, hs⟩ := Database.exists_stages h
  have ha : a.Fresh := (hr.keeps_applyBehaviors fun _ _ h hx => h.of_extends hx).of_ok hs.applied hl.fresh
  have hc : db'.Closed := hs.closed ha
  exact ⟨hc.referrers, hc.leadsBack_iff (hs.named ha.named).addressed, Database.unambiguous_of_nodup⟩

theorem referrers_of_finalize_library : ∃ db db', LoadedFrom .builtins libraryDocument db ∧
    (Database.finalize .builtins { dialect := .postgres }).result db = .ok db' ∧
      (∀ foreign ∈ db'.entities, ∀ ref ∈ foreign.referrers, ∃ r, db'.RefersTo ref foreign r) ∧
      ((∀ foreign ∈ db'.entities, ∀ ref ∈ foreign.referrers, db'.LeadsBack ref foreign) ↔ db'.Unambiguous) ∧
      ((∀ e ∈ db'.entities, (e.relations.map (·.name)).Nodup) → db'.Unambiguous) := by
  have hf : (libraryDocument.finalized? { dialect := .postgres }).isSome = true := by decide +kernel
  obtain ⟨db', hf⟩ := Option.isSome_iff_exists.1 hf
  obtain ⟨db, hl, h⟩ := SchemaDocument.loadedFrom_of_finalized? hf
  exact ⟨db, db', hl, h, referrers_of_finalize Registry.additive_builtins.respects_fresh hl h⟩

def makersDocument (name : Option String) (author printer : String) : SchemaDocument :=
  let id : Document.Field := { name := "id", fieldType := some "INTEGER", primaryKey := true }
  { databases := [
      { name := "library"
        entities := [
          { name := author, fields := [id] },
          { name := printer, fields := [id] },
          { name := "book"
            fields := [id, { name := "maker", fieldType := some "INTEGER" }]
            relations := [{ name, foreignEntity := author, references := [("maker", "id")] },
              { name, foreignEntity := printer, references := [("maker", "id")] }] }] }] }

/-- Two relations can be given one name, and then one of two referrers leads to the relation of the other. -/
theorem exists_misled_referrer : ∃ db db',
    LoadedFrom .builtins (makersDocument (some "maker") "author" "printer") db ∧
      (Database.finalize .builtins { dialect := .generic }).result db = .ok db' ∧
      (∃ e ∈ db'.entities, ¬(e.relations.map (·.name)).Nodup) ∧
      ∃ foreign ∈ db'.entities, ∃ ref ∈ foreign.referrers, ¬db'.LeadsBack ref foreign := by
  have hf : ((makersDocument (some "maker") "author" "printer").finalized? { dialect := .generic }).any
    (fun db => decide (
      (∃ e ∈ db.entities, ¬(e.relations.map (·.name)).Nodup) ∧
        ∃ foreign ∈ db.entities, ∃ ref ∈ foreign.referrers, ¬db.LeadsBack ref foreign)) = true := by
    decide +kernel
  obtain ⟨db', hf, hwrong⟩ := (Option.any_eq_true _ _).1 hf
  obtain ⟨db, hl, h⟩ := SchemaDocument.loadedFrom_of_finalized? hf
  exact ⟨db, db', hl, h, of_decide_eq_true hwrong⟩

-- Generated names tell nothing apart that differs in case only.
example : ((makersDocument none "author" "Author").finalized? { dialect := .generic }).any (fun db => decide (
    ∃ foreign ∈ db.entities, ∃ ref ∈ foreign.referrers, ¬db.LeadsBack ref foreign)) = true := by
  decide +kernel

end Tablecraft
