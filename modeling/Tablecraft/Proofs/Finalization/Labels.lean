import Tablecraft.Proofs.Finalization.NameLengths
import Tablecraft.Proofs.Naming.Clashes

namespace Tablecraft

open List Edit Text

variable {registry : Registry} {p : Platform} {tables : String → Option String} {doc : SchemaDocument}
  {db db' a u t : Database} {e e' e₀ : Entity} {i i' : Index}

def Entity.Labeled (e : Entity) : Prop := ∀ i ∈ e.allIndices, i.table = some e.table

def Database.Labeled (db : Database) : Prop := ∀ e ∈ db.entities, e.Labeled

theorem Entity.Labeled.congr (h : e.Labeled) (hi : e'.allIndices = e.allIndices) (ht : e'.table = e.table) :
    e'.Labeled := by
  rwa [Labeled, hi, ht]

theorem Entity.Labeled.append (h : e.Labeled) {i j : Index} (hj : e.admitIndex i = .ok j)
    (hp : e'.allIndices.Perm (j :: e.allIndices)) (ht : e'.table = e.table) : e'.Labeled := by
  intro k hk
  rcases mem_cons.1 (hp.mem_iff.1 hk) with rfl | hk
  · rw [(admitIndex_eq_ok hj).1, ht]
  · rw [h k hk, ht]

theorem Entity.Labeled.addIndex (h : e.Labeled) (ha : e.addIndex i = .ok e') : e'.Labeled := by
  obtain ⟨j, hj, hp⟩ := perm_addIndex ha
  obtain ⟨_, -, rfl⟩ := addIndex_eq_ok ha
  exact h.append hj hp rfl

theorem Entity.Labeled.addUnique (h : e.Labeled) (ha : e.addUnique i = .ok e') : e'.Labeled := by
  obtain ⟨j, hj, hp⟩ := perm_addUnique ha
  obtain ⟨_, -, rfl⟩ := addUnique_eq_ok ha
  exact h.append hj hp rfl

theorem Entity.Labeled.setNameLimit (h : e.Labeled) (limit : Nat) : (e.setNameLimit limit).Labeled := by
  simpa [Labeled, Entity.setNameLimit, allIndices, Entity.table, or_imp, forall_and] using h

theorem Entity.assembles_labeled : Assembles Labeled where
  blank h := by simp [Labeled, allIndices, h.indices, h.uniques]
  addField h _ ha := by
    obtain ⟨-, -, rfl⟩ := addField_eq_ok ha
    exact h.congr rfl rfl
  addIndex h ha := h.addIndex ha
  addUnique h ha := h.addUnique ha
  addRelation _ h := h.congr rfl rfl
  attachBehavior _ h := h.congr rfl rfl

theorem LoadedFrom.labeled (h : LoadedFrom registry doc db) : db.Labeled :=
  h.forall_entities Entity.assembles_labeled fun _ _ _ _ he => he.congr rfl rfl

theorem Entity.Extends.table_eq (h : e.Extends tables e') : e'.table = e.table := by
  rw [h.frame]
  rfl

theorem Database.Labeled.of_extends (hl : db.Labeled) (hx : db.Extends t)
    (hc : db.Related Entity.SameConstraints t) : t.Labeled := by
  intro e' he'
  obtain ⟨k, hk⟩ := mem_iff_getElem?.1 he'
  obtain ⟨e, he, hextends⟩ := FirstMatch.exists_of_getElem?' hx.entities hk
  obtain ⟨e₁, he₁, hsame⟩ := FirstMatch.exists_of_getElem?' hc.entities hk
  obtain rfl := Option.some.inj (he.symm.trans he₁)
  refine (hl e (mem_of_getElem? he)).congr ?_ hextends.table_eq
  rw [Entity.allIndices, Entity.allIndices, hsame.indices, hsame.uniques]

theorem Registry.respects_labeled : builtins.Respects Database.Labeled := by
  intro b
  have hadditive := additive_builtins b
  have hsame (s : Database) : (builtins.effectOf b).Respects (s.Related Entity.SameConstraints) :=
    (benign_builtins b).respects fun _ _ hx hy => Database.Related.trans (fun _ _ _ h h' => h.trans h') hx hy
  have hrefl (s : Database) : s.Related Entity.SameConstraints s := .refl Entity.SameConstraints.refl s
  exact
    { onDatabase := fun c s hs =>
        hs.of_extends (hadditive.onDatabase c s s (.refl s)) ((hsame s).onDatabase c s (hrefl s))
      onEntity := fun c name s hs =>
        hs.of_extends (hadditive.onEntity c name s s (.refl s)) ((hsame s).onEntity c name s (hrefl s)) }

structure Entity.Relabels (tables : String → Option String) (e e' : Entity) : Prop where
  extension : e.Extends tables e'
  labeled : e.Labeled → e'.Labeled

theorem Entity.absorbs_relabels (limit : Nat) (tables : String → Option String) :
    Absorbs limit tables (Relabels tables) where
  sameNames h := h.extension.sameNames
  fullTable h := h.extension.fullTable_eq
  relations h := h.extension.relations
  setNameLimit h :=
    ⟨(absorbs_extends limit tables).setNameLimit h.extension, fun hl => (h.labeled hl).setNameLimit limit⟩
  addIndex h ha := ⟨(absorbs_extends limit tables).addIndex h.extension ha, fun hl => (h.labeled hl).addIndex ha⟩
  addUnique h ha := ⟨(absorbs_extends limit tables).addUnique h.extension ha, fun hl =>
    (h.labeled hl).addUnique ha⟩
  setIdMethod h := ⟨(absorbs_extends limit tables).setIdMethod h.extension, fun hl =>
    (h.labeled hl).congr rfl rfl⟩
  mark name h := ⟨(absorbs_extends limit tables).mark name h.extension, fun hl => (h.labeled hl).congr rfl rfl⟩
  addField hf h ha := by
    refine ⟨(absorbs_extends limit tables).addField hf h.extension ha, fun hl => ?_⟩
    obtain ⟨-, -, rfl⟩ := addField_eq_ok ha
    exact (h.labeled hl).congr rfl rfl
  modifyRelationAt h hf hlimit :=
    ⟨(absorbs_extends limit tables).modifyRelationAt h.extension hf hlimit, fun hl =>
      (h.labeled hl).congr rfl rfl⟩

/-- Outside MySQL nothing is added after the entities are settled. -/
theorem Database.Stages.labeled (hs : Stages registry p db a u t db') (hp : p.dialect ≠ .mysql) (ha : a.Labeled) :
    db'.Labeled := by
  have hsettled : a.Related (Entity.Relabels a.tableOf?) u :=
    ((Entity.absorbs_relabels _ a.tableOf?).keeps_settleAll a.heavyIndexing a.entityNames).of_ok hs.settled
      (.refl (fun e => ⟨.refl e, id⟩) a)
  intro e' he'
  obtain ⟨z, hz, hze⟩ := FirstMatch.exists_of_mem' (Finalization.indexed_dialectPass hs.dialect).entities he'
  obtain ⟨y, hy, hyz⟩ := FirstMatch.exists_of_mem' hs.informed.entities hz
  obtain ⟨x, hx, hxy⟩ := FirstMatch.exists_of_mem' hsettled.entities hy
  have hzl : z.Labeled := by
    apply (hxy.labeled (ha x hx)).congr <;> rw [hyz.frame] <;> rfl
  have htable : e'.table = z.table := by
    rw [hze.decorated.frame]
    rfl
  intro i hi
  rw [htable]
  rcases mem_append.1 hi with hi | hi
  · rcases hze.indices.of_mem hi with ⟨_, hold, rfl⟩ | hstands
    · exact hzl _ (mem_append_left _ hold)
    · exact absurd hstands.dialect hp
  · rw [hze.decorated.frame] at hi
    exact hzl i (mem_append_right _ hi)

theorem Database.labeled_of_finalize (hr : registry.Respects Database.Labeled) (hl : db.Labeled)
    (hp : p.dialect ≠ .mysql) (h : (finalize registry p).result db = .ok db') : db'.Labeled := by
  obtain ⟨a, u, t, hs⟩ := exists_stages h
  refine hs.labeled hp ((hr.keeps_applyBehaviors_of fun s slot hs => ?_).of_ok hs.applied hl)
  exact hs.of_extends (Schedule.extends_markApplied (.refl s) slot) (Schedule.sameConstraints_markApplied slot s)

theorem Index.name_eq_iff_of_isAutoNamed {limit : Nat} (ha : i.isAutoNamed = true) (ha' : i'.isAutoNamed = true)
    (hn : i.nameLimit = limit) (hn' : i'.nameLimit = limit) (hlimit : 8 ≤ limit) :
    i.name = i'.name ↔ i.unique = i'.unique ∧
      Naming.hashOf (memberParts i.members) = Naming.hashOf (memberParts i'.members) ∧
      truncate (i.table.getD "") (limit - 9) = truncate (i'.table.getD "") (limit - 9) := by
  rw [isAutoNamed, Option.isNone_iff_eq_none] at ha ha'
  rw [name, name, ha, ha', Option.getD_none, Option.getD_none, generatedName, generatedName, hn, hn']
  have hbytes (unique : Bool) : byteLength (if unique then "u_" else "i_") = 2 := by cases unique <;> rfl
  have hchars (unique : Bool) : (if unique then "u_" else "i_").toList.length = 2 := by cases unique <;> rfl
  have hkind : ((if i.unique then "u_" else "i_") = if i'.unique then "u_" else "i_") ↔ i.unique = i'.unique := by
    cases i.unique <;> cases i'.unique <;> decide
  rw [Naming.hashedName_eq_iff ((hchars _).trans (hchars _).symm) (by rwa [hbytes]) (by rwa [hbytes]), hkind,
    Naming.shownTable, Naming.shownTable, hbytes, hbytes]

/-- In PostgreSQL generated names of two indices or constraints are the same exactly if both are constraints
or neither is, the hashes of their members are the same, and the first 54 bytes of their tables are. -/
theorem Database.name_eq_iff_of_finalize (hp : p.dialect = .postgres) (hr : registry.Respects Database.Labeled)
    (hl : db.Labeled) (h : (finalize registry p).result db = .ok db') (he : db'.entity? e.name = some e)
    (he' : db'.entity? e'.name = some e') (hi : i ∈ e.allIndices) (hi' : i' ∈ e'.allIndices)
    (ha : i.isAutoNamed = true) (ha' : i'.isAutoNamed = true) :
    (i.name = i'.name ↔ i.unique = i'.unique ∧
        Naming.hashOf (Index.memberParts i.members) = Naming.hashOf (Index.memberParts i'.members) ∧
        truncate e.table 54 = truncate e'.table 54) ∧
      (e.table ≠ e'.table → byteLength e.table ≤ 54 → byteLength e'.table ≤ 54 → i.name ≠ i'.name) := by
  have hlabeled := labeled_of_finalize hr hl (by simp [hp]) h
  obtain ⟨a, u, t, hs⟩ := exists_stages h
  have hlimit {e : Entity} (he : db'.entity? e.name = some e) {i : Index} (hi : i ∈ e.allIndices) :
      i.nameLimit = 63 := by
    have hlimited := (hs.constrained (mem_of_entity? he) he).limited
    rw [Platform.maxIdentifierLength, hp] at hlimited
    exact (mem_append.1 hi).elim (hlimited.indices i) (hlimited.uniques i)
  have hiff := Index.name_eq_iff_of_isAutoNamed ha ha' (hlimit he hi) (hlimit he' hi') (by decide)
  rw [hlabeled e (mem_of_entity? he) i hi, hlabeled e' (mem_of_entity? he') i' hi'] at hiff
  refine ⟨hiff, fun hne hfits hfits' hname => hne ?_⟩
  have htables := (hiff.1 hname).2.2
  rwa [Option.getD_some, Option.getD_some, truncate_eq_self hfits, truncate_eq_self hfits'] at htables

def floorsDocument (upper lower : String) : SchemaDocument :=
  let books (name table : String) : Document.Entity :=
    { name, table := some table
      fields := [{ name := "id", fieldType := some "INTEGER", primaryKey := true },
        { name := "title", fieldType := some "VARCHAR" }]
      indices := [{ fields := [{ name := "title" }] }] }
  { databases := [{ name := "library", entities := [books "upper" upper, books "lower" lower] }] }

def distantFloors : SchemaDocument :=
  floorsDocument "the_books_that_stand_on_the_second_floor_next_to_the_reading_room"
    "the_books_that_stand_on_the_ground_floor_next_to_the_reading_room"

theorem Database.name_eq_iff_of_finalize_floors : ∃ db db', LoadedFrom .builtins distantFloors db ∧
    Registry.builtins.Respects Labeled ∧ db.Labeled ∧
    (finalize .builtins { dialect := .postgres }).result db = .ok db' ∧
    ∃ e e' i i', db'.entity? e.name = some e ∧ db'.entity? e'.name = some e' ∧ i ∈ e.allIndices ∧
      i' ∈ e'.allIndices ∧
      i.isAutoNamed = true ∧ i'.isAutoNamed = true ∧
      i.name = "the_books_that_stand_on_the_second_floor_next_to_the_r_i_639136" ∧
      i'.name = "the_books_that_stand_on_the_ground_floor_next_to_the_r_i_639136" ∧
      (i.name = i'.name ↔ i.unique = i'.unique ∧
        Naming.hashOf (Index.memberParts i.members) = Naming.hashOf (Index.memberParts i'.members) ∧
        truncate e.table 54 = truncate e'.table 54) := by
  obtain ⟨db, db', hd, h, e, hmem, e', hmem', i, hi, i', hi', he, he', ha, ha', hn, hn'⟩ :=
    exists_finalize_of_decide { dialect := .postgres } distantFloors.first?
      (fun _ db' => ∃ e ∈ db'.entities, ∃ e' ∈ db'.entities, ∃ i ∈ e.allIndices, ∃ i' ∈ e'.allIndices,
        db'.entity? e.name = some e ∧ db'.entity? e'.name = some e' ∧ i.isAutoNamed = true ∧
          i'.isAutoNamed = true ∧
        i.name = "the_books_that_stand_on_the_second_floor_next_to_the_r_i_639136" ∧
        i'.name = "the_books_that_stand_on_the_ground_floor_next_to_the_r_i_639136") (by decide +kernel)
  have hl := SchemaDocument.loadedFrom_of_first? hd
  have hiff := name_eq_iff_of_finalize rfl Registry.respects_labeled hl.labeled h he he' hi hi' ha ha'
  exact ⟨db, db', hl, Registry.respects_labeled, hl.labeled, h, e, e', i, i', he, he', hi, hi', ha, ha', hn, hn',
    hiff.1⟩

def nearFloors : SchemaDocument :=
  floorsDocument "the_books_that_stand_in_the_reading_room_on_the_second_floor"
    "the_books_that_stand_in_the_reading_room_on_the_second_gallery"

theorem Database.exists_clash : ∃ db db', LoadedFrom .builtins nearFloors db ∧
    (finalize .builtins { dialect := .postgres }).result db = .ok db' ∧
    ∃ e ∈ db'.entities, ∃ e' ∈ db'.entities, ∃ i ∈ e.allIndices, ∃ i' ∈ e'.allIndices,
      i.isAutoNamed = true ∧ i'.isAutoNamed = true ∧ e.table ≠ e'.table ∧ i.name = i'.name := by
  obtain ⟨db, db', hd, h, hclash⟩ := exists_finalize_of_decide { dialect := .postgres } nearFloors.first?
    (fun _ db' => ∃ e ∈ db'.entities, ∃ e' ∈ db'.entities, ∃ i ∈ e.allIndices, ∃ i' ∈ e'.allIndices,
      i.isAutoNamed = true ∧ i'.isAutoNamed = true ∧ e.table ≠ e'.table ∧ i.name = i'.name) (by decide +kernel)
  exact ⟨db, db', SchemaDocument.loadedFrom_of_first? hd, h, hclash⟩

end Tablecraft
