import Tablecraft.Proofs.Ddl.Agreement
import Tablecraft.Proofs.Ddl.MigrationOrder

namespace Tablecraft

open List Edit

variable {p : Platform} {db n : Database} {e : Entity} {script : Script}

theorem Database.mem_entitiesForSql : e ∈ db.entitiesForSql ↔ e ∈ db.entities ∧ e.sqlEligible = true :=
  List.mem_filter

/-- Creation goes by names: an entity gets a table if the name of one that has a table of its own leads to it.
-/
def Database.tabled (db : Database) : List Entity := (db.entitiesForSql.map (·.name)).filterMap db.entity?

theorem Database.filterMap_entity?_names (ha : db.Addressed) {entities : List Entity}
    (hm : ∀ e ∈ entities, e ∈ db.entities) : (entities.map (·.name)).filterMap db.entity? = entities := by
  rw [List.filterMap_map]
  exact (List.filterMap_congr fun e he => ha.entity?_eq (hm e he)).trans List.filterMap_some

theorem Database.mem_tabled (he : e ∈ db.entitiesForSql) (hself : db.entity? e.name = some e) : e ∈ db.tabled :=
  List.mem_filterMap.2 ⟨e.name, List.mem_map_of_mem he, hself⟩

/-- Names lead to related entities in related databases. -/
theorem Database.Related.forall₂_filterMap {R : Entity → Entity → Prop} (hR : ∀ e e', R e e' → e.SameNames e')
    (hn : db.Related R n) (names : List String) :
    Forall₂ R (names.filterMap db.entity?) (names.filterMap n.entity?) := by
  induction names with
  | nil => exact .nil
  | cons name rest ih =>
      cases he : db.entity? name with
      | none =>
          have hnone : n.entity? name = none := by
            cases he' : n.entity? name with
            | none => rfl
            | some e' =>
                obtain ⟨e, hfound, -⟩ := Related.entity?' hR hn he'
                rw [he] at hfound
                cases hfound
          rwa [List.filterMap_cons_none he, List.filterMap_cons_none hnone]
      | some e =>
          obtain ⟨e', he', hx⟩ := Related.entity? hR hn he
          rw [List.filterMap_cons_some he, List.filterMap_cons_some he']
          exact .cons hx ih

theorem Database.Related.forall₂_entity? {R : Entity → Entity → Prop} (hR : ∀ e e', R e e' → e.SameNames e')
    (hn : db.Related R n) (ha : db.Addressed) {entities : List Entity} (hm : ∀ e ∈ entities, e ∈ db.entities) :
    Forall₂ R entities ((entities.map (·.name)).filterMap n.entity?) := by
  simpa only [filterMap_entity?_names ha hm] using hn.forall₂_filterMap hR (entities.map (·.name))

namespace Platform

theorem created?_of_mem_createEntity {created : Script} (h : p.createEntity db e = .ok created) {table : String} :
    (∃ s ∈ created, s.created? = some table) ↔ p.tableName e = table := by
  have hc : p.createAdded db e = .ok created.withoutClearing := by
    rw [← createEntity_withoutClearing, h]
    rfl
  rw [← created?_of_mem_createAdded hc]
  constructor
  · rintro ⟨s, hs, ht⟩
    refine ⟨s, List.mem_filter.2 ⟨hs, ?_⟩, ht⟩
    cases s with
    | heading | dropTable | dropSequence => cases ht
    | _ => rfl
  · rintro ⟨s, hs, ht⟩
    exact ⟨s, (List.mem_filter.1 hs).1, ht⟩

/-- A creation script creates the tables of the entities that get one, and no others. -/
theorem created_iff (h : p.createDatabase db = .ok script) (table : String) :
    (∃ s ∈ script, s.created? = some table) ↔ table ∈ db.tabled.map p.tableName := by
  obtain ⟨n, tables, hn, ht, rfl⟩ := createDatabase_eq_ok h
  have he : Forall₂ Entity.Normalized db.tabled ((db.entitiesForSql.map (·.name)).filterMap n.entity?) :=
    (normalized_of_normalizeEntities hn).forall₂_filterMap (fun _ _ hx => hx.sameNames) _
  have ht := mapM_eq_ok_iff.1 ht
  generalize (db.entitiesForSql.map (·.name)).filterMap n.entity? = entities at he ht ⊢
  have hnames : entities.map p.tableName = db.tabled.map p.tableName :=
    FirstMatch.map_eq_of_forall₂ he fun _ _ hx => hx.tableName_eq
  rw [← hnames, List.mem_map]
  constructor
  · rintro ⟨s, hs, hc⟩
    rcases List.mem_append.1 hs with hs | hs
    · rcases List.mem_append.1 hs with hs | hs
      · rcases List.mem_append.1 hs with hs | hs
        · rw [mem_opening hs] at hc
          cases hc
        · obtain ⟨created, hm, hs⟩ := List.mem_flatten.1 hs
          obtain ⟨e, hme, hce⟩ := FirstMatch.exists_of_mem' ht hm
          exact ⟨e, hme, (created?_of_mem_createEntity hce).1 ⟨s, hs, hc⟩⟩
      · obtain ⟨e, _, hs⟩ := List.mem_flatMap.1 hs
        simp [(of_mem_addForeignKeys hs).1] at hc
    · rw [mem_closing hs] at hc
      cases hc
  · rintro ⟨e, hme, hn⟩
    obtain ⟨created, hm, hce⟩ := FirstMatch.exists_of_mem ht hme
    obtain ⟨s, hs, hc⟩ := (created?_of_mem_createEntity hce).2 hn
    refine ⟨s, ?_, hc⟩
    simp only [List.mem_append, List.mem_flatten]
    exact .inl (.inl (.inr ⟨created, hm, hs⟩))

end Platform

end Tablecraft
