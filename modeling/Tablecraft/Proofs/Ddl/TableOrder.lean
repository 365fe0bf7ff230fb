import Tablecraft.Proofs.Ddl.CreationShape
import Tablecraft.Proofs.Ddl.Lockstep

namespace Tablecraft

open List Edit FirstMatch

variable {p : Platform} {s t n : Database} {e e' : Entity} {names names' : List String} {name : String}
  {script : Script}

namespace Entity

theorem isUniqueOn_dropUnusedSizes (p : Platform) (e : Entity) :
    (p.dropUnusedSizes e).isUniqueOn = e.isUniqueOn := by
  have hu : (p.dropUnusedSizes e).uniques.map Index.memberNames = e.uniques.map Index.memberNames := by
    have hreset (i : Index) : i.resetSizes.memberNames = i.memberNames := by
      simp [Index.memberNames, Index.resetSizes, Function.comp_def]
    unfold Platform.dropUnusedSizes
    split
    · rfl
    · simp [Function.comp_def, hreset]
  funext names
  have hany := congrArg (List.any · (sameMembers names)) hu
  simp only [List.any_map] at hany
  rw [isUniqueOn, isUniqueOn, (p.normalized_dropUnusedSizes e).primaryKeyNames_eq]
  exact congrArg (sameMembers names e.primaryKeyNames || ·) hany

end Entity

namespace Database

def UniqueTargets (db : Database) (names : List String) : Prop :=
  ∀ name ∈ names, ∀ e ∈ db.entity? name, ∀ r ∈ e.relations, Platform.missingUnique? db r = none

instance (db : Database) (names : List String) : Decidable (db.UniqueTargets names) :=
  inferInstanceAs (Decidable (∀ name ∈ names, ∀ e ∈ db.entity? name, ∀ r ∈ e.relations, _ = none))

end Database

namespace Platform

theorem missingUnique?_modifyEntity (hs : s.Addressed) (p : Platform) (name : String) (r : Relation) :
    missingUnique? (s.modifyEntity name p.dropUnusedSizes) r = missingUnique? s r := by
  cases he : s.entity? name with
  | none => rw [Database.modifyEntity_eq_self he]
  | some e =>
      have hn := p.normalized_dropUnusedSizes e
      unfold missingUnique?
      rw [hs.entity?_modifyEntity he hn.sameNames]
      cases hf : s.entity? r.foreignEntity with
      | none => rfl
      | some foreign =>
          rw [Option.map_some]
          by_cases hfe : foreign.name = e.name
          · obtain rfl := hs.eq_of_name (Database.mem_of_entity? hf) (Database.mem_of_entity? he) hfe
            rw [if_pos rfl, Option.bind_some, Option.bind_some, hn.sameNames.1, hn.hasField_eq,
              Entity.isUniqueOn_dropUnusedSizes]
          · rw [if_neg hfe]

theorem uniqueTargets_modifyEntity (hs : s.Addressed) (h : s.UniqueTargets names) :
    (s.modifyEntity name p.dropUnusedSizes).UniqueTargets names := by
  intro x hx e' he' r hr
  have hn : s.Normalized (s.modifyEntity name p.dropUnusedSizes) :=
    Database.Related.of_modifyEntity .refl fun e _ => p.normalized_dropUnusedSizes e
  obtain ⟨e, he, hee⟩ := hn.entity?' he'
  rw [hee.frame] at hr
  rw [missingUnique?_modifyEntity hs]
  exact h x hx e he r hr

def dropAllUnusedSizes (p : Platform) (db : Database) (names : List String) : Database :=
  names.foldl (fun db name => db.modifyEntity name p.dropUnusedSizes) db

theorem normalizeEntities_of_uniqueTargets (hs : s.Addressed) (h : s.UniqueTargets names) :
    (p.normalizeEntities names).result s = .ok (p.dropAllUnusedSizes s names) := by
  induction names generalizing s with
  | nil => rfl
  | cons name rest ih =>
      obtain ⟨hname, hrest⟩ := List.forall_mem_cons.1 h
      have hn : (p.normalizeEntity name).result s = .ok (s.modifyEntity name p.dropUnusedSizes) := by
        rw [result_normalizeEntity]
        cases he : s.entity? name with
        | none => rw [Database.modifyEntity_eq_self he]
        | some e =>
            have hm : e.relations.filterMap (missingUnique? s) = [] := List.filterMap_eq_nil_iff.2 (hname e he)
            dsimp only
            rw [hm]
            rfl
      have hs' : (s.modifyEntity name p.dropUnusedSizes).Addressed :=
        Database.Related.addressed (fun _ _ hx => hx.sameNames)
          (Database.Related.of_modifyEntity .refl fun e _ => p.normalized_dropUnusedSizes e) hs
      rw [normalizeEntities, result_bind, hn]
      exact ih hs' (uniqueTargets_modifyEntity hs hrest)

theorem dropAllUnusedSizes_perm (h : names'.Perm names) (s : Database) :
    p.dropAllUnusedSizes s names' = p.dropAllUnusedSizes s names := by
  refine h.foldl_eq' (fun x _ y _ db => ?_) s
  have hname (x : String) (e : Entity) : (p.dropUnusedSizes e).isNamed x = e.isNamed x :=
    (p.normalized_dropUnusedSizes e).sameNames.isNamed x
  rw [Database.modifyEntity, Database.modifyEntity, Database.modifyEntity, Database.modifyEntity]
  dsimp only
  rw [modify_comm (hname y) (hname x)]

def entityBlock (p : Platform) (db : Database) (name : String) : Script × Script :=
  match db.entity? name with
  | some e => ((p.createEntity db e).toOption.getD [], p.addForeignKeys db e)
  | none => ([], [])

def layout (p : Platform) (blocks : List (Script × Script)) : Script :=
  p.opening ++ (blocks.map Prod.fst).flatten ++ (blocks.map Prod.snd).flatten ++ p.closing

theorem flatten_fst_entityBlock {tables : List Script}
    (h : (names.filterMap n.entity?).mapM (p.createEntity n) = .ok tables) :
    tables.flatten = (names.map fun name => (p.entityBlock n name).1).flatten := by
  induction names generalizing tables with
  | nil =>
      cases h
      rfl
  | cons name rest ih =>
      cases he : n.entity? name with
      | none =>
          rw [List.filterMap_cons_none he] at h
          simpa [entityBlock, he] using ih h
      | some e =>
          rw [List.filterMap_cons_some he] at h
          cases mapM_eq_ok_iff.1 h with
          | cons hc hrest =>
              have hr := ih (mapM_eq_ok_iff.2 hrest)
              rw [List.flatten_cons, hr, List.map_cons, List.flatten_cons]
              simp [entityBlock, he, hc, Except.toOption]

theorem flatten_snd_entityBlock : (names.filterMap n.entity?).flatMap (p.addForeignKeys n) =
    (names.map fun name => (p.entityBlock n name).2).flatten := by
  induction names with
  | nil => rfl
  | cons name rest ih =>
      cases he : n.entity? name with
      | none =>
          rw [List.filterMap_cons_none he, ih]
          simp [entityBlock, he]
      | some e =>
          rw [List.filterMap_cons_some he, List.flatMap_cons, ih, List.map_cons, List.flatten_cons]
          simp [entityBlock, he]

/-- Creation succeeds entity by entity, and the script is laid out from their blocks. -/
theorem createNormalized_eq_ok_iff : p.createNormalized n names = .ok script ↔
    (∀ e ∈ names.filterMap n.entity?, ∃ created, p.createEntity n e = .ok created) ∧
      script = p.layout (names.map (p.entityBlock n)) := by
  have hlayout {tables : List Script} (ht : (names.filterMap n.entity?).mapM (p.createEntity n) = .ok tables) :
      p.opening ++ tables.flatten ++ (names.filterMap n.entity?).flatMap (p.addForeignKeys n) ++ p.closing =
        p.layout (names.map (p.entityBlock n)) := by
    rw [flatten_fst_entityBlock ht, flatten_snd_entityBlock, layout, List.map_map, List.map_map]
    rfl
  constructor
  · intro h
    obtain ⟨tables, ht, h⟩ := except_bind_eq_ok_iff.1 h
    refine ⟨fun e he => ?_, (Except.ok.inj h).symm.trans (hlayout ht)⟩
    obtain ⟨created, _, hc⟩ := exists_of_mem (mapM_eq_ok_iff.1 ht) he
    exact ⟨created, hc⟩
  · rintro ⟨hall, rfl⟩
    obtain ⟨tables, ht⟩ := exists_mapM hall
    exact except_bind_eq_ok_iff.2 ⟨tables, ht, congrArg Except.ok (hlayout ht)⟩

/-- A block creates the table of its entity and no other, and has the foreign keys of that table. -/
structure IsBlockOf (p : Platform) (e : Entity) (b : Script × Script) : Prop where
  created_iff : ∀ table, (∃ st ∈ b.1, st.created? = some table) ↔ p.tableName e = table
  keys : ∀ st ∈ b.2, ∃ clause, st = .addForeignKey (p.tableName e) clause

theorem isBlockOf_entityBlock (hn : s.Normalized n) (he : s.entity? name = some e)
    (hall : ∀ e ∈ names.filterMap n.entity?, ∃ created, p.createEntity n e = .ok created) (hm : name ∈ names) :
    p.IsBlockOf e (p.entityBlock n name) := by
  obtain ⟨e', he', hee⟩ := Database.Related.entity? (fun _ _ hx => hx.sameNames) hn he
  obtain ⟨created, hc⟩ := hall e' (List.mem_filterMap.2 ⟨name, hm, he'⟩)
  have hb : p.entityBlock n name = (created, p.addForeignKeys n e') := by
    simp [entityBlock, he', hc, Except.toOption]
  rw [hb]
  refine ⟨fun table => ?_, fun st hst => ?_⟩
  · rw [created?_of_mem_createEntity hc, hee.tableName_eq]
  · obtain ⟨r, _, _, rfl⟩ := mem_addForeignKeys hst
    exact ⟨_, by rw [hee.tableName_eq]⟩

/-- Where no unique constraint is missing, the order of names is the order of blocks and nothing else. -/
theorem createInOrder_perm (hs : s.Addressed) (hu : s.UniqueTargets names) (h : names'.Perm names) :
    (∃ block : String → Script × Script,
      p.createInOrder s names = .ok (p.layout (names.map block)) ∧
      p.createInOrder s names' = .ok (p.layout (names'.map block)) ∧
      ∀ name ∈ names, ∀ e ∈ s.entity? name, p.IsBlockOf e (block name)) ∨
    ∃ fault fault', p.createInOrder s names = .error fault ∧ p.createInOrder s names' = .error fault' := by
  have hn := normalizeEntities_of_uniqueTargets (p := p) hs hu
  have hu' : s.UniqueTargets names' := fun name hm => hu name (h.mem_iff.1 hm)
  have hn' := normalizeEntities_of_uniqueTargets (p := p) hs hu'
  rw [dropAllUnusedSizes_perm h] at hn'
  have hrelated := normalized_of_normalizeEntities hn
  -- From here on both orders work on one copy, so that only the layout can differ.
  rw [createInOrder, createInOrder, hn, hn']
  generalize p.dropAllUnusedSizes s names = n at hrelated ⊢
  change (∃ block : String → Script × Script,
      p.createNormalized n names = _ ∧ p.createNormalized n names' = _ ∧ _) ∨
    ∃ _ _, p.createNormalized n names = _ ∧ p.createNormalized n names' = _
  have hentities : (names'.filterMap n.entity?).Perm (names.filterMap n.entity?) := h.filterMap _
  by_cases hall : ∀ e ∈ names.filterMap n.entity?, ∃ created, p.createEntity n e = .ok created
  · refine .inl ⟨p.entityBlock n, createNormalized_eq_ok_iff.2 ⟨hall, rfl⟩,
      createNormalized_eq_ok_iff.2 ⟨?_, rfl⟩, ?_⟩
    · exact fun e he => hall e (hentities.mem_iff.1 he)
    · exact fun name hm e he => isBlockOf_entityBlock hrelated he hall hm
  · refine .inr ?_
    cases hc : p.createNormalized n names with
    | ok script => exact absurd (createNormalized_eq_ok_iff.1 hc).1 hall
    | error fault => cases hc' : p.createNormalized n names' with
      | ok script =>
          exact absurd (fun e he => (createNormalized_eq_ok_iff.1 hc').1 e (hentities.mem_iff.2 he)) hall
      | error fault' => exact ⟨fault, fault', rfl, rfl⟩

end Platform

end Tablecraft
