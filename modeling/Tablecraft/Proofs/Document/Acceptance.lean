import Tablecraft.Proofs.Document.Loading
import Tablecraft.Proofs.Document.WellFormed

namespace Tablecraft

open Edit

variable {registry : Registry} {domains : List String}

namespace Entity

variable {e : Entity} {f : Field} {i : Index}

theorem yields_addField (e : Entity) (f : Field) :
    Yields (e.addField f) (e.hasField f.name = false ∧ (f.isInheritance = true → e.inheritanceField? = none))
      (· = e.appendField f) where
  ends_iff := by
    unfold addField
    by_cases hn : e.hasField f.name = true
    · simp [hn]
    · by_cases hf : f.isInheritance = true
      · cases hi : e.inheritanceField? <;> simp [hn, hf]
      · simp [hn, hf]
  result h := (addField_eq_ok h).2.2

def ownIndex (e : Entity) (i : Index) : Index := { i with table := some e.table, nameLimit := e.nameLimit }

theorem yields_admitIndex (e : Entity) (i : Index) :
    Yields (e.admitIndex i)
      (i.members ≠ [] ∧ (∀ m ∈ i.members, e.hasField m.name = true) ∧ e.hasIndex (e.ownIndex i).name = false)
      (· = e.ownIndex i) where
  ends_iff := by
    have hall : (∀ m ∈ i.members, e.hasField m.name = true) ↔
        i.members.find? (fun m => !e.hasField m.name) = none := by
      simp
    rw [hall]
    unfold admitIndex ownIndex
    by_cases hempty : i.members = []
    · simp [hempty]
    · cases hmissing : i.members.find? fun m => !e.hasField m.name with
      | some m => simp [hempty, hmissing]
      | none => by_cases hname : e.hasIndex (e.ownIndex i).name = true <;> unfold ownIndex at hname <;>
          simp [hempty, hmissing, hname]
  result h := (admitIndex_eq_ok h).1

theorem hasIndex_iff {name : String} :
    e.hasIndex name = true ↔ name ∈ e.indices.map (·.name) ∨ name ∈ e.uniques.map (·.name) := by
  simp [hasIndex, allIndices]

theorem yields_addBehavior (e : Entity) (b : Behavior) :
    Yields (e.addBehavior b) (b.clashes e.behaviors = false) (· = e.attachBehavior b) :=
  .refuse (b.clashes e.behaviors) _ _

end Entity

namespace Database

theorem yields_addBehavior (db : Database) (b : Behavior) :
    Yields (db.addBehavior b) (b.clashes db.behaviors = false)
      (· = { db with behaviors := db.behaviors ++ [b] }) :=
  .refuse (b.clashes db.behaviors) _ _

theorem hasEntity_iff {db : Database} {name : String} :
    db.hasEntity name = true ↔ ∃ e ∈ db.entities, e.isNamed name = true := List.find?_isSome

theorem yields_addEntity (db : Database) (e : Entity) :
    Yields (db.addEntity e) (db.hasEntity e.name = false)
      (· = { db with entities := db.entities ++ [db.adopt e] }) :=
  .refuse (db.hasEntity e.name) _ _

theorem addSequences_eq (names : List String) (db : Database) :
    ∃ sequences, names.foldl (fun db name => db.addSequence name) db = { db with sequences } := by
  induction names generalizing db with
  | nil => exact ⟨db.sequences, rfl⟩
  | cons name rest ih =>
      rw [List.foldl_cons, addSequence]
      split
      · exact ih db
      · exact ih { db with sequences := db.sequences ++ [name] }

end Database

theorem Schema.yields_addDatabase (s : Schema) (db : Database) :
    Yields (s.addDatabase db) (db.name ∉ s.databases.map (·.name))
      fun t => t.databases.map (·.name) = s.databases.map (·.name) ++ [db.name] := by
  have hn : (s.database? db.name).isSome = false ↔ db.name ∉ s.databases.map (·.name) := by
    simp [database?]
  refine Yields.imp (.refuse (s.database? db.name).isSome _ _) hn fun t ht => ?_
  rw [ht]
  simp

theorem Behavior.clashes_eq_false {b : Behavior} {present : List Behavior} :
    b.clashes present = false ↔ ∀ x ∈ present, x.id = b.id → b.repeatable = true := by
  by_cases hr : b.repeatable = true <;> simp [clashes, hr]

namespace Document

theorem yields_buildAction (action : Option String) :
    Yields (buildAction action) (∀ a ∈ action, RelationAction.Known a) fun _ => True where
  ends_iff := by
    cases action with
    | none => simp [buildAction]
    | some a => simp [buildAction, RelationAction.exists_read_iff]
  result _ := trivial

theorem yields_buildIdMethod (m : Option String) :
    Yields (buildIdMethod m) (∀ x ∈ m, IdMethod.Known x) fun _ => True where
  ends_iff := by
    cases m with
    | none => simp [buildIdMethod]
    | some x => simp [buildIdMethod, except_map_eq_ok_iff, ← IdMethod.exists_read_iff]
  result _ := trivial

theorem yields_buildDialect (platform : Option String) :
    Yields (buildDialect platform) (∀ x ∈ platform, Dialect.Known x) fun _ => True where
  ends_iff := by
    cases platform with
    | none => simp [buildDialect]
    | some x => simp [buildDialect, except_map_eq_ok_iff, ← Dialect.exists_read_iff]
  result _ := trivial

theorem yields_buildDomain (d : Domain) :
    Yields (buildDomain d) (FieldType.Known d.fieldType) (·.name = d.name) where
  ends_iff := by
    rw [← FieldType.exists_read_iff]
    simp [buildDomain, except_bind_eq_ok_iff]
  result h := by
    obtain ⟨t, -, h⟩ := except_bind_eq_ok_iff.1 h
    cases h
    cases hs : d.sqlType <;> simp [overrideSqlType, Tablecraft.Domain.replaceSqlType]

theorem yields_buildRelation (r : Relation) : Yields (buildRelation r) r.WellFormed fun _ => True :=
  ((yields_buildAction r.onDelete).bind fun _ _ => (yields_buildAction r.onUpdate).bind fun _ _ =>
    .ok trivial).imp
    ⟨fun h => ⟨h.1, h.2.1⟩, fun h => ⟨h.onDelete, h.onUpdate, trivial⟩⟩ fun _ h => h

theorem setParameters_eq (parameters : List (String × Option String)) (b : Tablecraft.Behavior) :
    (parameters.foldl (fun b p => b.setParameter p.1 p.2) b).id = b.id ∧
      (parameters.foldl (fun b p => b.setParameter p.1 p.2) b).repeatable = b.repeatable := by
  induction parameters generalizing b with
  | nil => exact ⟨rfl, rfl⟩
  | cons p rest ih =>
      obtain ⟨name, value⟩ := p
      rw [List.foldl_cons, (ih _).1, (ih _).2]
      cases value <;> exact ⟨rfl, rfl⟩

theorem yields_buildBehavior (registry : Registry) (d : Behavior) :
    Yields (buildBehavior registry d) (registry.knows d.name = true)
      fun b => b.id = d.effectiveId ∧ (b.repeatable = true ↔ registry.AllowsMultiple d.name) where
  ends_iff := by
    cases hg : registry.get? (Text.lower d.name) <;>
      simp [buildBehavior, Registry.create, Registry.knows, NameMap.contains, hg, except_bind_eq_ok_iff]
  result h := by
    obtain ⟨b, hb, h⟩ := except_bind_eq_ok_iff.1 h
    cases h
    obtain ⟨hid, hrepeatable⟩ := setParameters_eq d.parameters.entries { b with id := d.id.getD b.id }
    unfold Registry.create at hb
    dsimp only at hb
    split at hb
    · cases hb
    · rename_i effect hg
      cases hb
      refine ⟨hid, ?_⟩
      rw [hrepeatable, Registry.AllowsMultiple]
      simp [hg]

/-- A behavior is refused for its identifier only. -/
theorem clashes_iff {d : Behavior} {b : Tablecraft.Behavior} {present : List Tablecraft.Behavior}
    {seen : List Behavior} (hp : present.map (·.id) = seen.map (·.effectiveId))
    (hb : b.id = d.effectiveId ∧ (b.repeatable = true ↔ registry.AllowsMultiple d.name)) :
    b.clashes present = false ↔ ∀ x ∈ seen, x.effectiveId = d.effectiveId → registry.AllowsMultiple d.name := by
  have hids : (∀ x ∈ present, x.id = b.id → b.repeatable = true) ↔
      ∀ id ∈ present.map (·.id), id = b.id → b.repeatable = true := by
    simp
  rw [Behavior.clashes_eq_false, hids, hp, hb.1, hb.2]
  simp

def Declares (db : Tablecraft.Database) (domains : List String) : Prop :=
  ∀ name, (db.domains.get? name).isSome = true ↔ name ∈ domains

theorem yields_baseDomain {db : Tablecraft.Database} (hd : Declares db domains) (entity : String) (d : Field) :
    Yields (baseDomain db entity d) (d.WellFormed domains) fun _ => True where
  ends_iff := by
    rw [Field.wellFormed_iff, baseDomain]
    cases d.domain with
    | none =>
        cases d.fieldType with
        | none => simp
        | some t => simp [except_map_eq_ok_iff, ← FieldType.exists_read_iff]
    | some name =>
        have hname := hd name
        cases hget : db.domains.get? name with
        | none =>
            have hnot : name ∉ domains := by simpa [hget] using hname
            simp [hget, hnot]
        | some domain =>
            have hmem : name ∈ domains := by simpa [hget] using hname
            cases d.fieldType with
            | none => simp [hget, hmem]
            | some t => simp [hget, hmem, except_map_eq_ok_iff, ← FieldType.exists_read_iff]
  result _ := trivial

theorem yields_buildField {db : Tablecraft.Database} (hd : Declares db domains) (entity : String) (d : Field) :
    Yields (buildField db entity d) (d.WellFormed domains)
      fun f => f.name = d.name ∧ (f.isInheritance = true ↔ d.inheritance ≠ []) :=
  ((yields_baseDomain hd entity d).bind fun _ _ => .ok (by simp [Tablecraft.Field.isInheritance])).imp
    (and_iff_left trivial) fun _ h => h

structure Built (d : Entity) (fields : List Field) (keys : List (Bool × Index)) (behaviors : List Behavior)
    (e : Tablecraft.Entity) : Prop where
  name : e.name = d.name
  space : e.space = d.space
  table : e.table = d.tableName
  nameLimit : e.nameLimit = Naming.defaultLimit
  fieldNames : e.fieldNames = fields.map (·.name)
  inheritance : e.inheritanceField? = none ↔ ∀ f ∈ fields, f.inheritance = []
  keyNames : ∀ name, e.hasIndex name = true ↔ name ∈ keys.map d.keyName
  behaviors : e.behaviors.map (·.id) = behaviors.map (·.effectiveId)

def addKey (e : Tablecraft.Entity) (key : Bool × Index) : Except Fault Tablecraft.Entity :=
  if key.1 then e.addUnique (buildIndex true key.2) else e.addIndex (buildIndex false key.2)

theorem foldlM_keys (d : Entity) (e : Tablecraft.Entity) :
    d.keys.foldlM addKey e = (do
      let e ← d.indices.foldlM (fun e i => e.addIndex (buildIndex false i)) e
      d.uniques.foldlM (fun e i => e.addUnique (buildIndex true i)) e) := by
  rw [Entity.keys, List.foldlM_append, List.foldlM_map]
  simp only [List.foldlM_map]
  rfl

namespace Built

variable {d : Entity} {fields : List Field} {keys : List (Bool × Index)} {behaviors : List Behavior}
  {e : Tablecraft.Entity}

theorem appendField {f : Field} {g : Tablecraft.Field} (h : Built d fields [] [] e)
    (hg : g.name = f.name ∧ (g.isInheritance = true ↔ f.inheritance ≠ [])) :
    Built d (fields ++ [f]) [] [] (e.appendField g) where
  name := h.name
  space := h.space
  table := h.table
  nameLimit := h.nameLimit
  fieldNames := by
    have hfields := h.fieldNames
    simp only [Entity.fieldNames] at hfields ⊢
    simp [Entity.appendField, hfields, hg.1]
  inheritance := by
    have hi := h.inheritance
    simp only [Entity.inheritanceField?, Entity.appendField, List.find?_append, Option.or_eq_none_iff] at hi ⊢
    rw [hi]
    have hlast : g.inheritance = [] ↔ f.inheritance = [] := by
      simpa [Tablecraft.Field.isInheritance, not_iff_not] using hg.2
    simp [hlast, Tablecraft.Field.isInheritance, or_imp, forall_and]
  keyNames := h.keyNames
  behaviors := h.behaviors

/-- A field goes in unless there is one of its name, or another one with inheritance. -/
theorem yields_addField {db : Tablecraft.Database} (hd : Declares db domains) (h : Built d fields [] [] e)
    (f : Field) :
    Yields (do e.addField (← buildField db d.name f))
      (f.WellFormed domains ∧ ∀ x ∈ fields, x.name ≠ f.name ∧ (x.inheritance = [] ∨ f.inheritance = []))
      (Built d (fields ++ [f]) [] []) := by
  refine (yields_buildField hd d.name f).bind fun g hg =>
    (Entity.yields_addField e g).imp ?_ fun e' he' => ?_
  · have hname : e.hasField f.name = false ↔ ∀ x ∈ fields, x.name ≠ f.name := by
      rw [← Bool.not_eq_true, Entity.hasField_iff, h.fieldNames]
      simp
    rw [hg.1, hname, hg.2, h.inheritance, forall₂_and]
    refine and_congr_right fun _ => ?_
    by_cases hf : f.inheritance = [] <;> simp [hf]
  · rw [he']
    exact h.appendField hg

theorem name_ownIndex (h : Built d fields keys behaviors e) (unique : Bool) (i : Index) :
    (e.ownIndex (buildIndex unique i)).name = d.keyName (unique, i) := by
  simp [Entity.ownIndex, buildIndex, Tablecraft.Index.name, Tablecraft.Index.generatedName,
    Tablecraft.Index.memberParts, Entity.keyName, h.table, h.nameLimit, List.flatMap_map]

/-- An index goes in if it has members, all of them fields, and no other index or constraint has its name. -/
theorem yields_admitIndex (h : Built d fields keys behaviors e) (unique : Bool) (i : Index) :
    Yields (e.admitIndex (buildIndex unique i))
      ((i.fields ≠ [] ∧ ∀ m ∈ i.fields, m.name ∈ fields.map (·.name)) ∧
        ∀ x ∈ keys, d.keyName x ≠ d.keyName (unique, i))
      (·.name = d.keyName (unique, i)) := by
  refine (Entity.yields_admitIndex e (buildIndex unique i)).imp ?_ fun j hj => hj ▸ h.name_ownIndex unique i
  have hname : e.hasIndex (d.keyName (unique, i)) = false ↔ ∀ x ∈ keys, d.keyName x ≠ d.keyName (unique, i) := by
    rw [← Bool.not_eq_true, h.keyNames]
    simp
  have hmembers : (∀ m ∈ (buildIndex unique i).members, e.hasField m.name = true) ↔
      ∀ m ∈ i.fields, m.name ∈ fields.map (·.name) := by
    simp only [Entity.hasField_iff, h.fieldNames]
    simp [buildIndex]
  rw [h.name_ownIndex, hname, hmembers, and_assoc]
  simp [buildIndex]

theorem appendKey {indices uniques : List Tablecraft.Index} {key : Bool × Index}
    (h : Built d fields keys behaviors e)
    (hn : ∀ name, ({ e with indices, uniques } : Tablecraft.Entity).hasIndex name = true ↔
      e.hasIndex name = true ∨ name = d.keyName key) :
    Built d fields (keys ++ [key]) behaviors { e with indices, uniques } where
  name := h.name
  space := h.space
  table := h.table
  nameLimit := h.nameLimit
  fieldNames := h.fieldNames
  inheritance := h.inheritance
  keyNames name := by
    rw [hn, h.keyNames]
    simp
  behaviors := h.behaviors

theorem yields_addKey (h : Built d fields keys behaviors e) (key : Bool × Index) :
    Yields (addKey e key)
      ((key.2.fields ≠ [] ∧ ∀ m ∈ key.2.fields, m.name ∈ fields.map (·.name)) ∧
        ∀ x ∈ keys, d.keyName x ≠ d.keyName key)
      (Built d fields (keys ++ [key]) behaviors) := by
  obtain ⟨unique, i⟩ := key
  cases unique with
  | false =>
      refine (h.yields_admitIndex false i).map fun j hj => h.appendKey fun name => ?_
      simp only [Entity.hasIndex_iff, List.map_append, List.map_singleton, List.mem_append,
        List.mem_singleton, hj]
      tauto
  | true =>
      refine (h.yields_admitIndex true i).map fun j hj => h.appendKey fun name => ?_
      simp only [Entity.hasIndex_iff, List.map_append, List.map_singleton, List.mem_append,
        List.mem_singleton, hj]
      tauto

/-- A relation goes in whatever is there. -/
theorem yields_addRelation (h : Built d fields keys behaviors e) (r : Relation) :
    Yields (do return e.addRelation (← buildRelation r)) r.WellFormed (Built d fields keys behaviors) :=
  ((yields_buildRelation r).bind fun _ _ =>
    .ok ⟨h.name, h.space, h.table, h.nameLimit, h.fieldNames, h.inheritance,
    h.keyNames, h.behaviors⟩).imp (and_iff_left trivial) fun _ h => h

theorem yields_addBehavior (h : Built d fields keys behaviors e) (b : Behavior) :
    Yields (do e.addBehavior (← buildBehavior registry b))
      (registry.knows b.name = true ∧ ∀ x ∈ behaviors, x.effectiveId = b.effectiveId →
        registry.AllowsMultiple b.name)
      (Built d fields keys (behaviors ++ [b])) := by
  refine (yields_buildBehavior registry b).bind fun c hc =>
    (Entity.yields_addBehavior e c).imp (clashes_iff h.behaviors hc) fun e' he' => ?_
  rw [he']
  refine ⟨h.name, h.space, h.table, h.nameLimit, h.fieldNames, h.inheritance, h.keyNames, ?_⟩
  simp [Entity.attachBehavior, h.behaviors, hc.1]

theorem yields_addFields {db : Tablecraft.Database} (hd : Declares db domains) (h : Built d [] [] [] e) :
    Yields (d.fields.foldlM (fun e f => do e.addField (← buildField db d.name f)) e)
      ((∀ f ∈ d.fields, f.WellFormed domains) ∧ (d.fields.map (·.name)).Nodup ∧
        d.fields.Pairwise fun f g => f.inheritance = [] ∨ g.inheritance = [])
      (Built d d.fields [] []) := by
  refine (Yields.foldlM (I := fun e fields => Built d fields [] [] e)
    (fun _ _ f h => h.yields_addField hd f) h).imp ?_
    fun _ h => h
  rw [List.pairwise_and_iff, List.Nodup, List.pairwise_map]

theorem yields_addKeys {β : Type} {q : Prop} {S : β → Prop} {rest : Tablecraft.Entity → Except Fault β}
    (h : Built d d.fields [] [] e) (hrest : ∀ e, Built d d.fields d.keys [] e → Yields (rest e) q S) :
    Yields (do
        let e ← d.indices.foldlM (fun e i => e.addIndex (buildIndex false i)) e
        let e ← d.uniques.foldlM (fun e i => e.addUnique (buildIndex true i)) e
        rest e)
      (((∀ key ∈ d.keys, key.2.fields ≠ [] ∧ ∀ m ∈ key.2.fields, m.name ∈ d.fields.map (·.name)) ∧
        (d.keys.map d.keyName).Nodup) ∧ q) S := by
  have hkeys : Yields (d.keys.foldlM addKey e) _ (Built d d.fields d.keys []) :=
    Yields.foldlM (I := fun e keys => Built d d.fields keys [] e) (fun _ _ key h => h.yields_addKey key) h
  rw [← bind_assoc, ← foldlM_keys, List.Nodup, List.pairwise_map]
  exact hkeys.bind hrest

theorem yields_addRelations (h : Built d d.fields d.keys [] e) :
    Yields (d.relations.foldlM (fun e r => do return e.addRelation (← buildRelation r)) e)
      (∀ r ∈ d.relations, r.WellFormed) (Built d d.fields d.keys []) :=
  Yields.foldlM_forall (I := fun e _ => Built d d.fields d.keys [] e) (fun _ _ r h => h.yields_addRelation r) h

theorem yields_addBehaviors (h : Built d d.fields d.keys [] e) :
    Yields (d.behaviors.foldlM (fun e b => do e.addBehavior (← buildBehavior registry b)) e)
      (Behavior.Admitted registry d.behaviors) (Built d d.fields d.keys d.behaviors) :=
  (Yields.foldlM (I := fun e behaviors => Built d d.fields d.keys behaviors e)
    (fun _ _ b h => h.yields_addBehavior b)
    h).imp (Behavior.admitted_iff registry d.behaviors).symm fun _ h => h

end Built

theorem yields_buildEntity {db : Tablecraft.Database} (hd : Declares db domains) (d : Entity) :
    Yields (buildEntity registry db d) (d.WellFormed registry domains) (Built d d.fields d.keys d.behaviors) := by
  have hempty (idMethod : Option IdMethod) : Built d [] [] []
      { name := d.name, givenTable := d.table, space := d.space, schema := d.schema, description := d.description
        givenIdMethod := idMethod, idMethodParameter := d.idMethodParameter, heavyIndexing := d.heavyIndexing
        skipSql := d.skipSql, referenceOnly := d.referenceOnly, aliasOf := d.aliasOf
        crossReference := d.crossReference, vendor := d.vendor.map buildVendor } :=
    ⟨rfl, rfl, rfl, rfl, rfl, by simp [Entity.inheritanceField?],
      by simp [Entity.hasIndex, Entity.allIndices], rfl⟩
  refine ((yields_buildIdMethod d.idMethod).bind fun idMethod _ => ((hempty idMethod).yields_addFields hd).bind
    fun e₁ h₁ => h₁.yields_addKeys fun e₂ h₂ => h₂.yields_addRelations.bind fun e₃ h₃ =>
      h₃.yields_addBehaviors).imp ?_
      fun _ h => h
  rw [Entity.wellFormed_iff]
  tauto

structure Filled (d : Database) (domains : List Domain) (behaviors : List Behavior) (entities : List Entity)
    (db : Tablecraft.Database) : Prop where
  name : db.name = d.name
  space : db.space = d.space
  domains : Declares db (domains.map (·.name))
  behaviors : db.behaviors.map (·.id) = behaviors.map (·.effectiveId)
  entities : ∀ name, db.hasEntity name = true ↔ ∃ e ∈ entities, name = e.name ∨ name = d.qualifiedName e

namespace Filled

variable {d : Database} {given : List Domain} {behaviors : List Behavior} {entities : List Entity}
  {db : Tablecraft.Database}

theorem yields_addDomain (h : Filled d given behaviors entities db) (domain : Domain) :
    Yields (do return db.addDomain (← buildDomain domain)) (FieldType.Known domain.fieldType)
      (Filled d (given ++ [domain]) behaviors entities) := by
  refine ((yields_buildDomain domain).bind fun x hx => .ok ⟨h.name, h.space, fun name => ?_, h.behaviors,
    h.entities⟩).imp (and_iff_left trivial) fun _ h => h
  have hname := h.domains name
  rw [Tablecraft.Database.addDomain, NameMap.get?_insert, hx]
  by_cases hn : name = domain.name
  · simp [hn]
  · simp [hn, hname]

theorem yields_addBehavior (h : Filled d given behaviors entities db) (b : Behavior) :
    Yields (do db.addBehavior (← buildBehavior registry b))
      (registry.knows b.name = true ∧ ∀ x ∈ behaviors, x.effectiveId = b.effectiveId →
        registry.AllowsMultiple b.name)
      (Filled d given (behaviors ++ [b]) entities) := by
  refine (yields_buildBehavior registry b).bind fun c hc =>
    (Database.yields_addBehavior db c).imp (clashes_iff h.behaviors hc) fun db' hdb' => ?_
  rw [hdb']
  exact ⟨h.name, h.space, h.domains, by simp [h.behaviors, hc.1], h.entities⟩

/-- An entity goes in unless its name designates one that is there. -/
theorem yields_addEntity (h : Filled d given behaviors entities db) (e : Entity) :
    Yields (do db.addEntity (← buildEntity registry db e))
      (e.WellFormed registry (given.map (·.name)) ∧
        ∀ x ∈ entities, e.name ≠ x.name ∧ e.name ≠ d.qualifiedName x)
      (Filled d given behaviors (entities ++ [e])) := by
  refine (yields_buildEntity h.domains e).bind fun x hx =>
    (Database.yields_addEntity db x).imp ?_ fun db' hdb' => ?_
  · rw [← Bool.not_eq_true, hx.name, h.entities]
    simp
  · rw [hdb']
    refine ⟨h.name, h.space, h.domains, h.behaviors, fun name => ?_⟩
    have hadopt : (db.adopt x).isNamed name = true ↔ name = e.name ∨ name = d.qualifiedName e := by
      rw [eq_comm (a := name), eq_comm (a := name)]
      simp [Entity.isNamed, Entity.fullName, Tablecraft.Database.adopt, Database.qualifiedName, hx.name,
        hx.space, h.space]
    have hentities := h.entities name
    rw [Database.hasEntity_iff] at hentities ⊢
    simp only [List.mem_append, List.mem_singleton, or_and_right, exists_or, exists_eq_left, hadopt, hentities]

theorem yields_addDomains (h : Filled d [] [] [] db) :
    Yields (d.domains.foldlM (fun db domain => do return db.addDomain (← buildDomain domain)) db)
      (∀ domain ∈ d.domains, FieldType.Known domain.fieldType) (Filled d d.domains [] []) :=
  Yields.foldlM_forall (I := fun db given => Filled d given [] [] db)
    (fun _ _ domain h => h.yields_addDomain domain) h

theorem addSequences (h : Filled d given behaviors entities db) (names : List String) :
    Filled d given behaviors entities (names.foldl (fun db name => db.addSequence name) db) := by
  obtain ⟨sequences, hs⟩ := Database.addSequences_eq names db
  rw [hs]
  exact ⟨h.name, h.space, h.domains, h.behaviors, h.entities⟩

theorem yields_addBehaviors (h : Filled d d.domains [] [] db) :
    Yields (d.behaviors.foldlM (fun db b => do db.addBehavior (← buildBehavior registry b)) db)
      (Behavior.Admitted registry d.behaviors) (Filled d d.domains d.behaviors []) :=
  (Yields.foldlM (I := fun db behaviors => Filled d d.domains behaviors [] db)
    (fun _ _ b h => h.yields_addBehavior b) h).imp (Behavior.admitted_iff registry d.behaviors).symm fun _ h => h

theorem yields_addEntities (h : Filled d d.domains d.behaviors [] db) :
    Yields (d.entities.foldlM (fun db e => do db.addEntity (← buildEntity registry db e)) db)
      ((∀ e ∈ d.entities, e.WellFormed registry (d.domains.map (·.name))) ∧
        d.entities.Pairwise fun earlier later => later.name ≠ earlier.name ∧ later.name ≠ d.qualifiedName earlier)
      (Filled d d.domains d.behaviors d.entities) :=
  Yields.foldlM (I := fun db entities => Filled d d.domains d.behaviors entities db)
    (fun _ _ e h => h.yields_addEntity e) h

end Filled

theorem yields_buildDatabase (registry : Registry) (d : Database) :
    Yields (buildDatabase registry d) (d.WellFormed registry) (·.name = d.name) := by
  have hempty (dialect : Option Dialect) (idMethod : Option IdMethod) : Filled d [] [] []
      { name := d.name, schema := d.schema, space := d.space, dialect, defaultIdMethod := idMethod.getD .native
        heavyIndexing := d.heavyIndexing, vendor := d.vendor.map buildVendor } :=
    ⟨rfl, rfl, fun name => by simp [NameMap.get?, NameMap.findEntry, EmptyCollection.emptyCollection,
      NameMap.empty], rfl, by simp [Tablecraft.Database.hasEntity, Tablecraft.Database.entity?]⟩
  refine ((yields_buildDialect d.platform).bind fun dialect _ => (yields_buildIdMethod d.defaultIdMethod).bind
    fun idMethod _ => (hempty dialect idMethod).yields_addDomains.bind fun db₁ h₁ =>
      ((h₁.addSequences d.sequences).yields_addBehaviors).bind fun db₂ h₂ => h₂.yields_addEntities).imp ?_
        fun _ h => h.name
  rw [Database.wellFormed_iff]

end Document

namespace SchemaDocument

theorem yields_addDatabases (registry : Registry) (name : Option String) (databases : List Document.Database) :
    Yields (databases.foldlM
      (fun (s : Schema) d => do s.addDatabase (← Document.buildDatabase registry d)) { name })
      ((∀ d ∈ databases, d.WellFormed registry) ∧ (databases.map (·.name)).Nodup) fun _ => True := by
  have hstep (s : Schema) (seen : List Document.Database) (d : Document.Database)
      (hs : s.databases.map (·.name) = seen.map (·.name)) :
      Yields (do s.addDatabase (← Document.buildDatabase registry d))
        (d.WellFormed registry ∧ ∀ x ∈ seen, x.name ≠ d.name)
        fun t => t.databases.map (·.name) = (seen ++ [d]).map (·.name) := by
    refine (Document.yields_buildDatabase registry d).bind fun db hdb =>
      (s.yields_addDatabase db).imp ?_ fun t ht => ?_
    · simp [hs, hdb]
    · simp [ht, hs, hdb]
  rw [List.Nodup, List.pairwise_map]
  exact (Yields.foldlM hstep rfl).imp Iff.rfl fun _ _ => trivial

mutual

theorem yields_build (registry : Registry) (doc : SchemaDocument) :
    Yields (doc.build registry) (doc.WellFormed registry) fun _ => True := by
  match doc with
  | ⟨name, databases, externals⟩ =>
    rw [build]
    refine ((yields_addDatabases registry name databases).bind fun _ _ =>
      (yields_buildAll registry externals).bind fun _ _ => .ok trivial).imp ?_ fun _ h => h
    constructor
    · rintro ⟨⟨hall, hnames⟩, hexternals, -⟩
      exact .intro hall hnames hexternals
    · intro h
      cases h with
      | intro hall hnames hexternals => exact ⟨⟨hall, hnames⟩, hexternals, trivial⟩

theorem yields_buildAll (registry : Registry) (docs : List SchemaDocument) :
    Yields (buildAll registry docs) (∀ doc ∈ docs, doc.WellFormed registry) fun _ => True := by
  match docs with
  | [] =>
    rw [buildAll]
    exact (Yields.ok trivial).imp (by simp) fun _ h => h
  | doc :: rest =>
    rw [buildAll]
    refine ((yields_build registry doc).bind fun _ _ => (yields_buildAll registry rest).bind fun _ _ =>
      .ok trivial).imp ?_ fun _ h => h
    rw [List.forall_mem_cons, and_true]

end

/-- A document is loaded exactly if it is well-formed. -/
theorem exists_build_iff (registry : Registry) (doc : SchemaDocument) :
    (∃ schema, doc.build registry = .ok schema) ↔ doc.WellFormed registry :=
  (yields_build registry doc).ends_iff

end SchemaDocument

end Tablecraft
