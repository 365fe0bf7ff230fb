import Tablecraft.Proofs.Ddl.CreationShape
import Tablecraft.Proofs.Finalization.Frame
import Tablecraft.Proofs.Finalization.Idempotence
import Tablecraft.Proofs.Finalization.IndexChanges

namespace Tablecraft

open List Edit

variable {registry : Registry} {p : Platform} {doc : SchemaDocument} {db db' a u t n : Database} {e e' : Entity}
  {i j : Index} {script block : Script}

def TableItem.indexName? : TableItem → Option String
  | .unique name _ => name
  | .uniqueIndex name _ => some name
  | .index _ name _ => some name
  | .column _ | .primaryKey _ | .foreignKey _ => none

def Statement.indexNames : Statement → List String
  | .createTable definition => definition.items.filterMap TableItem.indexName?
  | .createIndex _ name _ _ => [name]
  | _ => []

def Script.indexNames (script : Script) : List String := script.flatMap Statement.indexNames

theorem Script.indexNames_eq_nil (h : ∀ s ∈ script, s.indexNames = []) : script.indexNames = [] :=
  flatMap_eq_nil_iff.2 h

namespace Platform

/-- The names of the unique constraints, which generic SQL and SQLite do not write. -/
def uniqueNames (p : Platform) (e : Entity) : List String :=
  match p.dialect with
  | .mysql | .postgres => e.uniques.map Index.name
  | _ => []

theorem indexNames_commonItems (p : Platform) (e : Entity) (columns : List ColumnClause) :
    (p.commonItems e columns).filterMap TableItem.indexName? = [] := by
  rw [filterMap_eq_nil_iff]
  intro item hi
  rcases List.mem_append.1 hi with hi | hi
  · obtain ⟨clause, -, rfl⟩ := List.mem_map.1 hi
    rfl
  · split at hi
    · cases hi
    · rw [List.mem_singleton.1 hi]
      rfl

theorem indexNames_inlineForeignKeys (p : Platform) (n : Database) (e : Entity) :
    (p.inlineForeignKeys n e).filterMap TableItem.indexName? = [] := by
  rw [filterMap_eq_nil_iff]
  intro item hi
  obtain ⟨r, -, rfl⟩ := List.mem_map.1 hi
  rfl

theorem indexNames_tableItems (p : Platform) (n : Database) (e : Entity) (columns : List ColumnClause) :
    (p.tableItems n e columns).filterMap TableItem.indexName? ++ Script.indexNames (p.addIndices e) =
      p.uniqueNames e ++ e.indices.map Index.name := by
  have hcommon := p.indexNames_commonItems e columns
  have hkeys := p.indexNames_inlineForeignKeys n e
  have hindices : Script.indexNames (e.indices.map (p.addIndex e)) = e.indices.map Index.name := by
    rw [Script.indexNames, flatMap_map, ← flatMap_pure_eq_map]
    rfl
  cases hd : p.dialect with
  | mysql =>
      have hkeys : (if p.supportsForeignKeys e then p.inlineForeignKeys n e else []).filterMap
          TableItem.indexName? = [] := by
        split
        · exact hkeys
        · rfl
      simp [tableItems, uniqueNames, addIndices, hd, hcommon, hkeys, TableItem.indexName?, Script.indexNames,
        Function.comp_def]
  | postgres =>
      simp [tableItems, uniqueNames, uniqueItem, addIndices, hd, hcommon, hindices, TableItem.indexName?,
        Function.comp_def]
  | generic => simp [tableItems, uniqueNames, uniqueItem, addIndices, hd, hcommon, hindices, TableItem.indexName?]
  | sqlite => simp [tableItems, uniqueNames, uniqueItem, addIndices, hd, hcommon, hkeys, hindices,
      TableItem.indexName?]

theorem indexNames_createEntity (h : p.createEntity n e = .ok block) :
    block.indexNames = p.uniqueNames e ++ e.indices.map Index.name := by
  obtain ⟨created, hc, h⟩ := except_bind_eq_ok_iff.1 h
  obtain ⟨definition, hd, hc⟩ := except_bind_eq_ok_iff.1 hc
  obtain ⟨columns, -, hd⟩ := except_bind_eq_ok_iff.1 hd
  cases hd
  cases hc
  cases h
  have hdrop : Script.indexNames (p.dropEntity e) = [] := Script.indexNames_eq_nil fun s hs => by
    rcases mem_dropEntity hs with rfl | ⟨_, rfl⟩ <;> rfl
  have hsequence : Script.indexNames ((p.ownSequence? e).map Statement.createSequence).toList = [] := by
    cases p.ownSequence? e <;> rfl
  have hdescribe : Script.indexNames (p.describe e) = [] := Script.indexNames_eq_nil fun s hs => by
    rcases mem_describe hs with ⟨_, rfl⟩ | ⟨_, _, rfl⟩ <;> rfl
  rw [← p.indexNames_tableItems n e columns]
  simp only [Script.indexNames] at hdrop hsequence hdescribe ⊢
  simp [hdrop, hsequence, hdescribe, Statement.indexNames]

/-- The index has the same name under the limit of the dialect, also without sizes if the dialect ignores
these. -/
structure KeepsName (p : Platform) (i : Index) : Prop where
  limit : { i with nameLimit := p.maxIdentifierLength }.name = i.name
  sizes : p.supportsIndexSize = false → { i with nameLimit := p.maxIdentifierLength }.resetSizes.name = i.name

theorem keepsName_of_given {name : String} (h : i.givenName = some name) : p.KeepsName i := by
  constructor <;> simp [Index.name, Index.resetSizes, h]

theorem keepsName_of_unsized (hl : i.nameLimit = p.maxIdentifierLength) (hs : ∀ m ∈ i.members, m.size = none) :
    p.KeepsName i := by
  have hi : { i with nameLimit := p.maxIdentifierLength } = i := by rw [← hl]
  refine ⟨by rw [hi], fun _ => ?_⟩
  rw [hi, resetSizes_eq_self hs]

theorem keepsName_of_mysql (hd : p.dialect = .mysql) (hl : i.nameLimit = Naming.defaultLimit) :
    p.KeepsName i where
  limit := by
    have hmax : p.maxIdentifierLength = i.nameLimit := by
      rw [maxIdentifierLength, hd, hl]
      rfl
    rw [hmax]
  sizes hs := by
    rw [supportsIndexSize, hd] at hs
    cases hs

theorem KeepsName.setLimit (h : p.KeepsName i) : p.KeepsName { i with nameLimit := p.maxIdentifierLength } :=
  ⟨rfl, fun hs => (h.sizes hs).trans h.limit.symm⟩

end Platform

namespace Entity

/-- The indices and constraints of the entity have names of their own, which the dialect leaves alone. -/
structure Tidy (p : Platform) (e : Entity) : Prop where
  distinct : e.indexNames.Nodup
  kept : ∀ i ∈ e.allIndices, p.KeepsName i

theorem ofIndices_tidy (p : Platform) : OfIndices (Tidy p) := by
  intro e e' hi hu h
  have hall : e'.allIndices = e.allIndices := by rw [allIndices, allIndices, hi, hu]
  exact ⟨by rw [indexNames, hall]; exact h.distinct, by rw [hall]; exact h.kept⟩

theorem Tidy.setNameLimit (h : e.Tidy p) : (e.setNameLimit p.maxIdentifierLength).Tidy p := by
  have hall : (e.setNameLimit p.maxIdentifierLength).allIndices =
      e.allIndices.map fun i => { i with nameLimit := p.maxIdentifierLength } := by
    rw [allIndices, allIndices, map_append]
    rfl
  constructor
  · have hnames : e.allIndices.map (Index.name ∘ fun i => { i with nameLimit := p.maxIdentifierLength }) =
      e.indexNames :=
      map_congr_left fun i hi => (h.kept i hi).limit
    rw [indexNames, hall, map_map, hnames]
    exact h.distinct
  · rw [hall]
    exact forall_mem_map.2 fun i hi => (h.kept i hi).setLimit

theorem keepsName_of_admitIndex (hl : e.nameLimit = p.maxIdentifierLength) (hs : ∀ m ∈ i.members, m.size = none)
    (h : e.admitIndex i = .ok j) : p.KeepsName j := by
  rw [(admitIndex_eq_ok h).1]
  exact Platform.keepsName_of_unsized hl hs

theorem admits_tidy (p : Platform) : Admits fun e => e.nameLimit = p.maxIdentifierLength ∧ e.Tidy p where
  addIndex h ha := by
    have hx := perm_addIndex ha
    obtain ⟨_, -, rfl⟩ := addIndex_eq_ok ha
    refine ⟨h.1, nodup_of_admitIndex hx h.2.distinct, forall_of_admitIndex hx h.2.kept fun j hj => ?_⟩
    apply keepsName_of_admitIndex h.1 _ hj
    simp [Index.ofNames]
  addUnique h ha := by
    have hx := perm_addUnique ha
    obtain ⟨_, -, rfl⟩ := addUnique_eq_ok ha
    refine ⟨h.1, nodup_of_admitIndex hx h.2.distinct, forall_of_admitIndex hx h.2.kept fun j hj => ?_⟩
    apply keepsName_of_admitIndex h.1 _ hj
    simp [Index.uniqueOfNames, Index.ofNames]

theorem keeps_tidy (p : Platform) (heavy : Bool) : Keeps (Tidy p) (Finalization.settleEntity p heavy) :=
  (admits_tidy p).keeps_settleEntity (fun _ h => ⟨rfl, h.setNameLimit⟩)
    (fun e h => ⟨h.1, ofIndices_tidy p e _ rfl rfl h.2⟩) (fun _ h => h.2) heavy

theorem Indexed.tidy (hx : e.Indexed p e') (h : e.Tidy p) : e'.Tidy p := by
  refine ⟨hx.distinct h.distinct, fun i hi => ?_⟩
  rcases mem_append.1 hi with hi | hi
  · rcases hx.indices.of_mem hi with ⟨_, hold, rfl⟩ | hstands
    · exact h.kept _ (mem_append_left _ hold)
    · rcases hstands.name with ⟨_, _, hn⟩ | ⟨_, _, hn⟩
      · exact Platform.keepsName_of_given hn
      · exact Platform.keepsName_of_given hn
  · have hu : e'.uniques = e.uniques := by rw [hx.decorated.frame]
    exact h.kept i (mem_append_right _ (hu ▸ hi))

end Entity

/-- Finalization adds indices and constraints under names that are free. -/
theorem Database.Stages.tidy (h : Stages .builtins p db a u t db') :
    db.Related (fun e e' => e.Tidy p → e'.Tidy p) db' := by
  have ha := Database.sameConstraints_of_applyBehaviors h.applied
  have hu := (Finalization.carries_settleAll (Entity.ofIndices_tidy p) (Entity.keeps_tidy p a.heavyIndexing)
    a.entityNames).of_ok h.settled (.refl (fun e => ⟨.refl e, id⟩) a)
  have hd := Finalization.indexed_dialectPass h.dialect
  have hau : db.Related (fun e e' => e.Tidy p → e'.Tidy p) u :=
    Database.Related.trans (fun x y z hxy hyz hx =>
      hyz.property (Entity.ofIndices_tidy p x y hxy.indices hxy.uniques hx)) ha hu
  have hat : db.Related (fun e e' => e.Tidy p → e'.Tidy p) t :=
    Database.Related.trans (fun x y z hxy hyz hx =>
      Entity.ofIndices_tidy p y z (by rw [hyz.frame]) (by rw [hyz.frame]) (hxy hx)) hau h.informed
  exact Database.Related.trans (fun _ _ _ hxy hyz hx => hyz.tidy (hxy hx)) hat hd

structure Entity.NamesApart (p : Platform) (e : Entity) : Prop where
  distinct : e.indexNames.Nodup
  kept : p.supportsIndexSize = false → ∀ i ∈ e.allIndices, i.resetSizes.name = i.name

structure Entity.StaysApart (p : Platform) (e e' : Entity) : Prop where
  normalized : e.Normalized e'
  apart : e.NamesApart p → e'.NamesApart p

theorem Entity.Limited.nameLimit_eq {limit : Nat} (h : e.Limited limit) (hi : i ∈ e.allIndices) :
    i.nameLimit = limit := by
  rcases mem_append.1 hi with hi | hi
  · exact h.indices i hi
  · exact h.uniques i hi

namespace Entity.NamesApart

theorem of_tidy (h : e.Tidy p) (hl : e.Limited p.maxIdentifierLength) : e.NamesApart p := by
  refine ⟨h.distinct, fun hs i hi => ?_⟩
  have hsizes := (h.kept i hi).sizes hs
  rwa [← hl.nameLimit_eq hi] at hsizes

theorem addUnique {names : List String} (h : e.NamesApart p) (ha : e.addUnique (.uniqueOfNames names) = .ok e') :
    e'.NamesApart p := by
  refine ⟨nodup_of_admitIndex (perm_addUnique ha) h.distinct, fun hs => ?_⟩
  apply forall_of_admitIndex (perm_addUnique ha) (h.kept hs)
  intro j hj
  rw [Platform.resetSizes_eq_self]
  rw [(admitIndex_eq_ok hj).1]
  simp [Index.uniqueOfNames, Index.ofNames]

theorem dropUnusedSizes (h : e.NamesApart p) : (p.dropUnusedSizes e).NamesApart p := by
  cases hs : p.supportsIndexSize with
  | true =>
      have hall : (p.dropUnusedSizes e).allIndices = e.allIndices := by
        rw [Platform.dropUnusedSizes, if_pos hs]
        rfl
      refine ⟨by rw [indexNames, hall]; exact h.distinct, fun hs' => ?_⟩
      rw [hs] at hs'
      cases hs'
  | false =>
      have hall : (p.dropUnusedSizes e).allIndices = e.allIndices.map Index.resetSizes := by
        rw [Platform.dropUnusedSizes, if_neg (by simp [hs]), allIndices, allIndices, map_append]
      have hnames : e.allIndices.map (Index.name ∘ Index.resetSizes) = e.indexNames := map_congr_left (h.kept hs)
      refine ⟨by rw [indexNames, hall, map_map, hnames]; exact h.distinct, fun _ => ?_⟩
      rw [hall]
      exact forall_mem_map.2 fun i _ => congrArg Index.name i.resetSizes_resetSizes

end Entity.NamesApart

theorem Platform.staysApart_of_normalizeEntities {names : List String}
    (h : (p.normalizeEntities names).result db = .ok n) : db.Related (Entity.StaysApart p) n := by
  refine related_of_normalizeEntities (fun e₀ e e' names hx ha => ?_) (fun e₀ e hx => ?_)
    (fun e => ⟨.refl e, id⟩) h
  · have hp := fun hp => (hx.apart hp).addUnique ha
    obtain ⟨j, -, rfl⟩ := Entity.addUnique_eq_ok ha
    exact ⟨hx.normalized.trans { Entity.Normalized.refl e with frame := rfl }, hp⟩
  · exact ⟨hx.normalized.trans (p.normalized_dropUnusedSizes e), fun hp => (hx.apart hp).dropUnusedSizes⟩

/-- The names of indices and constraints are distinct, under the limit that is set where nothing else is said.
-/
structure Entity.Drafted (e : Entity) : Prop where
  distinct : e.indexNames.Nodup
  limited : e.Limited Naming.defaultLimit

theorem Entity.assembles_drafted : Assembles Drafted where
  blank {e} h := by
    have hall : e.allIndices = [] := by rw [allIndices, h.indices, h.uniques, append_nil]
    exact ⟨by simp [indexNames, hall], h.nameLimit, by simp [h.indices], by simp [h.uniques],
      by simp [h.relations]⟩
  addField h _ ha := by
    obtain ⟨-, -, rfl⟩ := addField_eq_ok ha
    exact ⟨h.distinct, { h.limited with }⟩
  addIndex {e e' i} h ha := by
    have hx : e.Sustained Naming.defaultLimit (fun _ => none) e' := .addIndex ha
    exact ⟨nodup_of_admitIndex (perm_addIndex ha) h.distinct, hx.limited h.limited⟩
  addUnique {e e' i} h ha := by
    have hx : e.Sustained Naming.defaultLimit (fun _ => none) e' := .addUnique ha
    exact ⟨nodup_of_admitIndex (perm_addUnique ha) h.distinct, hx.limited h.limited⟩
  addRelation r h := by
    refine ⟨h.distinct, { h.limited with relations := fun s hs => ?_ }⟩
    rcases mem_append.1 hs with hs | hs
    · exact h.limited.relations s hs
    · rw [mem_singleton.1 hs]
      exact h.limited.entity
  attachBehavior _ h := ⟨h.distinct, { h.limited with }⟩

def Database.Drafted (db : Database) : Prop := ∀ e ∈ db.entities, e.Drafted

theorem LoadedFrom.drafted (h : LoadedFrom registry doc db) : db.Drafted :=
  h.forall_entities Entity.assembles_drafted fun _ _ _ _ he => ⟨he.distinct, { he.limited with }⟩

theorem Database.Drafted.tidy (h : db.Drafted) (he : e ∈ db.entities)
    (hk : p.dialect = .mysql ∨ ∀ i ∈ e.allIndices, p.KeepsName i) : e.Tidy p := by
  obtain ⟨hdistinct, hlimited⟩ := h e he
  refine ⟨hdistinct, ?_⟩
  rcases hk with hd | hk
  · exact fun i hi => Platform.keepsName_of_mysql hd (hlimited.nameLimit_eq hi)
  · exact hk

theorem Entity.NamesApart.nodup_indexNames (h : e.NamesApart p) (hc : p.createEntity n e = .ok block) :
    block.indexNames.Nodup := by
  have hall : (e.uniques.map Index.name ++ e.indices.map Index.name).Nodup := by
    rw [nodup_append_comm, ← map_append]
    exact h.distinct
  rw [Platform.indexNames_createEntity hc]
  unfold Platform.uniqueNames
  split
  · exact hall
  · exact hall
  · exact hall.of_append_right

theorem tidy_of_finalize (h : (Database.finalize .builtins p).result db = .ok db') :
    Forall₂ (fun e e' => e.Completed db.tableOf? e' ∧
      (e.Tidy p → e'.Tidy p)) db.entitiesForSql db'.entitiesForSql := by
  obtain ⟨a, u, t, hs⟩ := Database.exists_stages h
  have hcompleted := (Database.benign_builtins db).mild.completed h
  refine List.rel_filter (fun e e' hx => ?_) (FirstMatch.forall₂_and hcompleted.entities hs.tidy.entities)
  have heligible : e'.sqlEligible = e.sqlEligible := by
    rw [hx.1.frame]
    rfl
  exact iff_of_eq (congrArg (· = true) heligible.symm)

theorem Platform.indexNames_foreignKeys (p : Platform) (n : Database) (entities : List Entity) :
    Script.indexNames (entities.flatMap (p.addForeignKeys n)) = [] := by
  apply Script.indexNames_eq_nil
  intro s hs
  obtain ⟨e, -, hs⟩ := mem_flatMap.1 hs
  obtain ⟨r, -, -, rfl⟩ := mem_addForeignKeys hs
  rfl

/-- The blocks of a script, and what follows them without the name of an index. -/
theorem Platform.exists_blocks (ha : db.Addressed) (hl : ∀ e ∈ db.entities, e.Limited p.maxIdentifierLength)
    (hc : p.createDatabase db = .ok script) :
    ∃ blocks rest, script = p.opening ++ blocks.flatten ++ rest ∧ Script.indexNames (p.opening ++ rest) = [] ∧
      Forall₂ (fun (e : Entity) (block : Script) => block.head? = some (.heading e.table) ∧
        (e.Tidy p → block.indexNames.Nodup)) db.entitiesForSql blocks := by
  obtain ⟨n, blocks, hn, hb, rfl⟩ := createDatabase_eq_ok hc
  have hmembers : ∀ e ∈ db.entitiesForSql, e ∈ db.entities := fun e he => (Database.mem_entitiesForSql.1 he).1
  have hcopy := Database.Related.forall₂_entity? (fun _ _ hx => hx.normalized.sameNames)
    (staysApart_of_normalizeEntities hn) ha hmembers
  refine ⟨blocks, _, append_assoc _ _ _, ?_, ?_⟩
  · have hopening : Script.indexNames p.opening = [] := Script.indexNames_eq_nil fun s hs => by
      rw [mem_opening hs]
      rfl
    have hclosing : Script.indexNames p.closing = [] := Script.indexNames_eq_nil fun s hs => by
      rw [mem_closing hs]
      rfl
    have hkeys := p.indexNames_foreignKeys n ((db.entitiesForSql.map (·.name)).filterMap n.entity?)
    simp only [Script.indexNames, flatMap_append] at hopening hclosing hkeys ⊢
    rw [hopening, hkeys, hclosing]
    rfl
  · refine FirstMatch.forall₂_trans (fun e e' block hx hc => ⟨?_, fun ht => ?_⟩)
      ((forall₂_and_left _ _).2 ⟨hmembers, hcopy⟩) (mapM_eq_ok_iff.1 hb)
    · obtain ⟨created, -, hc⟩ := except_bind_eq_ok_iff.1 hc
      cases hc
      rw [hx.2.normalized.frame]
      rfl
    · exact (hx.2.apart (.of_tidy ht (hl e hx.1))).nodup_indexNames hc

/-- A creation script has a block for each entity. Within a block the names of indices and constraints are
distinct, in MySQL always and elsewhere if the dialect leaves the names of the entity alone. -/
theorem Platform.nodup_indexNames_of_createDatabase (hl : LoadedFrom .builtins doc db)
    (h : (Database.finalize .builtins p).result db = .ok db') (hc : p.createDatabase db' = .ok script) :
    ∃ blocks rest, script = p.opening ++ blocks.flatten ++ rest ∧ Script.indexNames (p.opening ++ rest) = [] ∧
      Forall₂ (fun (e : Entity) (block : Script) => block.head? = some (.heading e.table) ∧
        ((p.dialect = .mysql ∨ ∀ i ∈ e.allIndices, p.KeepsName i) → block.indexNames.Nodup))
        db.entitiesForSql blocks := by
  obtain ⟨a, u, t, hs⟩ := Database.exists_stages h
  have haddressed := (hl.fresh.of_finalize Registry.additive_builtins h).1
  have hlimited : ∀ e ∈ db'.entities, e.Limited p.maxIdentifierLength :=
    fun e he => (hs.constrained he (haddressed.entity?_eq he)).limited
  obtain ⟨blocks, rest, hscript, hnames, hblocks⟩ := exists_blocks haddressed hlimited hc
  have hmembers : ∀ e ∈ db.entitiesForSql, e ∈ db.entities := fun e he => (Database.mem_entitiesForSql.1 he).1
  refine ⟨blocks, rest, hscript, hnames, ?_⟩
  refine FirstMatch.forall₂_trans (fun e e' block hx hy => ⟨?_, fun hk => ?_⟩)
    ((forall₂_and_left _ _).2 ⟨hmembers, tidy_of_finalize h⟩) hblocks
  · rw [hy.1, hx.2.1.frame]
    rfl
  · exact hy.2 (hx.2.2 (hl.drafted.tidy hx.1 hk))

instance (p : Platform) (i : Index) : Decidable (p.KeepsName i) :=
  decidable_of_iff (_ ∧ _) ⟨fun h => ⟨h.1, h.2⟩, fun h => ⟨h.limit, h.sizes⟩⟩

def titleDocument (table : Option String) (indices : List Document.Index) : SchemaDocument :=
  { databases := [
      { name := "library"
        entities := [
          { name := "book", table
            fields := [{ name := "id", fieldType := some "INTEGER", primaryKey := true },
              { name := "isbn", fieldType := some "INTEGER", unique := true },
              { name := "title", fieldType := some "VARCHAR", size := some 100 }]
            indices }] }] }

def Database.Creates (p : Platform) (db : Database) (names : List String) : Prop :=
  (p.createDatabase db).toOption.map Script.indexNames = some names

instance (p : Platform) (db : Database) (names : List String) : Decidable (db.Creates p names) :=
  inferInstanceAs (Decidable (_ = _))

theorem Database.Creates.exists_script {names : List String} (h : db.Creates p names) :
    ∃ script, p.createDatabase db = .ok script ∧ script.indexNames = names := by
  obtain ⟨script, hs, hn⟩ := Option.map_eq_some_iff.1 h
  exact ⟨script, except_toOption_eq_some_iff.1 hs, hn⟩

def keptNamesDocument : SchemaDocument :=
  titleDocument none [{ fields := [{ name := "title" }] },
    { name := some "by_isbn", fields := [{ name := "isbn" }] }]

theorem Platform.nodup_indexNames_of_createDatabase_kept :
    ∃ db db' script, LoadedFrom .builtins keptNamesDocument db ∧
    (Database.finalize .builtins { dialect := .postgres }).result db = .ok db' ∧
    createDatabase { dialect := .postgres } db' = .ok script ∧
    Script.indexNames script = ["book_u_00c2a6", "book_i_639136", "by_isbn"] ∧
    (∀ e ∈ db.entities, ∀ i ∈ e.allIndices, KeepsName { dialect := .postgres } i) ∧
    ∃ blocks rest, script = opening { dialect := .postgres } ++ blocks.flatten ++ rest ∧
      Script.indexNames (opening { dialect := .postgres } ++ rest) = [] ∧
      Forall₂ (fun (e : Entity) (block : Script) => block.head? = some (.heading e.table) ∧
        ((({ dialect := .postgres } : Platform).dialect = .mysql ∨
          ∀ i ∈ e.allIndices, KeepsName { dialect := .postgres } i) → block.indexNames.Nodup))
        db.entitiesForSql blocks := by
  obtain ⟨db, db', hd, h, hk, hc⟩ :=
    Database.exists_finalize_of_decide { dialect := .postgres } keptNamesDocument.first?
    (fun db db' => (∀ e ∈ db.entities, ∀ i ∈ e.allIndices, KeepsName { dialect := .postgres } i) ∧
      db'.Creates { dialect := .postgres } ["book_u_00c2a6", "book_i_639136", "by_isbn"]) (by decide +kernel)
  obtain ⟨script, hc, hn⟩ := hc.exists_script
  have hl := SchemaDocument.loadedFrom_of_first? hd
  exact ⟨db, db', script, hl, h, hc, hn, hk, nodup_indexNames_of_createDatabase hl h hc⟩

def sizedDocument : SchemaDocument :=
  titleDocument none
    [{ fields := [{ name := "title", size := some 10 }] }, { fields := [{ name := "title", size := some 20 }] }]

def longTableDocument : SchemaDocument :=
  titleDocument (some "the_books_that_stand_in_the_reading_room_on_the_second_floor")
    [{ fields := [{ name := "title" }] },
      { name := some "the_books_that_stand_in_the_reading_room_on_the_second_i_639136",
        fields := [{ name := "isbn" }] }]

theorem Platform.exists_repeated_indexName :
    (∃ db db' script, LoadedFrom .builtins sizedDocument db ∧ db.entities.length = 1 ∧
      (Database.finalize .builtins {}).result db = .ok db' ∧ createDatabase {} db' = .ok script ∧
      ¬(Script.indexNames script).Nodup) ∧
    ∃ db db' script, LoadedFrom .builtins longTableDocument db ∧ db.entities.length = 1 ∧
      (Database.finalize .builtins { dialect := .postgres }).result db = .ok db' ∧
      createDatabase { dialect := .postgres } db' = .ok script ∧ ¬(Script.indexNames script).Nodup := by
  constructor
  · obtain ⟨db, db', hd, h, hone, hc⟩ := Database.exists_finalize_of_decide {} sizedDocument.first?
      (fun db db' => db.entities.length = 1 ∧ db'.Creates {} ["book_i_639136", "book_i_639136"])
        (by decide +kernel)
    obtain ⟨script, hc, hn⟩ := hc.exists_script
    exact ⟨db, db', script, SchemaDocument.loadedFrom_of_first? hd, hone, h, hc, hn ▸ by decide⟩
  · obtain ⟨db, db', hd, h, hone, hc⟩ := Database.exists_finalize_of_decide { dialect := .postgres }
      longTableDocument.first? (fun db db' => db.entities.length = 1 ∧ db'.Creates { dialect := .postgres }
        ["the_books_that_stand_in_the_reading_room_on_the_second_u_00c2a6",
          "the_books_that_stand_in_the_reading_room_on_the_second_i_639136",
          "the_books_that_stand_in_the_reading_room_on_the_second_i_639136"]) (by decide +kernel)
    obtain ⟨script, hc, hn⟩ := hc.exists_script
    exact ⟨db, db', script, SchemaDocument.loadedFrom_of_first? hd, hone, h, hc, hn ▸ by decide⟩

end Tablecraft
