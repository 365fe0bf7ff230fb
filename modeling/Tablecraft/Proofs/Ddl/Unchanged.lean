import Tablecraft.Proofs.Ddl.TableOrder
import Tablecraft.Proofs.Diff.Comparison
import Tablecraft.Proofs.Diff.Presence

namespace Tablecraft

open List Edit FirstMatch

open Compare

variable {p : Platform} {s t : Database} {e e' : Entity} {f : Field} {x : String}

/-- No two fields, indices or relations of the entity have one name. -/
structure Entity.DistinctParts (e : Entity) : Prop where
  fields : e.fieldNames.Nodup
  indices : (e.allIndices.map (·.name)).Nodup
  relations : (e.relations.map (·.name)).Nodup

instance (e : Entity) : Decidable e.DistinctParts :=
  decidable_of_iff (_ ∧ _ ∧ _) ⟨fun h => ⟨h.1, h.2.1, h.2.2⟩, fun h => ⟨h.fields, h.indices, h.relations⟩⟩

theorem Entity.name_mem_primaryKeyNames_iff (hd : e.fieldNames.Nodup) (hf : f ∈ e.fields) :
    f.name ∈ e.primaryKeyNames ↔ f.primaryKey = true := by
  constructor
  · intro h
    obtain ⟨g, hg, hn⟩ := List.mem_map.1 h
    obtain ⟨hg, hk⟩ := List.mem_filter.1 hg
    rwa [List.inj_on_of_nodup_map hd hg hf hn] at hk
  · exact fun hk => List.mem_map_of_mem (List.mem_filter.2 ⟨hf, hk⟩)

namespace EntityDiff

theorem isEmpty_iff {d : EntityDiff} : d.isEmpty = true ↔
    (d.addedFields = [] ∧ d.removedFields = [] ∧ d.renamedFields = [] ∧ d.modifiedFields = []) ∧
      d.modifiedPrimaryKey = false ∧ (d.addedIndices = [] ∧ d.removedIndices = [] ∧ d.modifiedIndices = []) ∧
      d.addedRelations = [] ∧ d.removedRelations = [] ∧ d.modifiedRelations = [] := by
  simp [isEmpty, and_assoc]

section

variable (hd : e.DistinctParts) (hu : e.unseen p = e'.unseen p) (he : (compare e e').isEmpty = true)

include hd hu he

theorem map_shown_fields : e.fields.map (Field.shown p) = e'.fields.map (Field.shown p) := by
  obtain ⟨⟨_, _, _, hm⟩, hk, _⟩ := isEmpty_iff.1 he
  have hf : Forall₂ (fun f g => f.unseen p = g.unseen p) e.fields e'.fields :=
    forall₂_of_map_eq (congrArg (·.fields) hu)
  have hname (f g : Field) (h : f.unseen p = g.unseen p) : f.name = g.name := congrArg (·.name) h
  have hnames : e'.fieldNames = e.fieldNames := map_eq_of_forall₂ hf fun f g h => (hname f g h).symm
  have hkeys : e.primaryKeyNames = e'.primaryKeyNames := by simpa [compare] using hk
  -- The comparison knows key fields by name only, and distinct names carry this over to the fields.
  have hflags : Forall₂ (fun f g : Field => f.primaryKey = g.primaryKey) e.fields e'.fields := by
    have hd' : e'.fieldNames.Nodup := hnames ▸ hd.fields
    have hflag (a : Entity) (ha : a.fieldNames.Nodup) :
        a.fields.map (·.primaryKey) = a.fieldNames.map fun name => decide (name ∈ a.primaryKeyNames) := by
      rw [Entity.fieldNames, List.map_map]
      exact List.map_congr_left fun f hf =>
        Bool.eq_iff_iff.2 (by simp [Entity.name_mem_primaryKeyNames_iff ha hf])
    refine forall₂_of_map_eq ?_
    rw [hflag e hd.fields, hflag e' hd', hnames, hkeys]
  have hs := forall₂_same_of_modified hd.fields hm hname hf (fun _ h => h) fun _ h => h
  refine (map_eq_of_forall₂ (Forall₂.mp (fun _ _ h h' => And.intro h h') hs hflags) fun f g h => ?_).symm
  obtain ⟨⟨hu, hs⟩, hkey⟩ := h
  simp only [Field.sameStorage, Bool.and_eq_true, beq_iff_eq] at hs
  obtain ⟨⟨⟨⟨⟨⟨⟨⟨⟨hcolumn, htype⟩, _⟩, hsize⟩, hscale⟩, hnull⟩, hauto⟩, _⟩, _⟩, hvalues⟩ := hs
  rw [Field.shown, Field.shown, hu, hcolumn, htype, hsize, hscale, hnull, hkey, hauto, hvalues]

theorem map_shown_relations : e.relations.map Relation.shown = e'.relations.map Relation.shown := by
  obtain ⟨_, _, _, _, _, hm⟩ := isEmpty_iff.1 he
  have hr : Forall₂ (fun r r' => r.unseen = r'.unseen) e.relations e'.relations :=
    forall₂_of_map_eq (congrArg (·.relations) hu)
  have hs := forall₂_same_of_modified hd.relations hm (fun r r' h => congrArg (·.name) h) hr
    (fun _ h => h) fun _ h => h
  refine (map_eq_of_forall₂ hs fun r r' h => ?_).symm
  obtain ⟨hu, hs⟩ := h
  simp only [Relation.sameShape, Bool.and_eq_true, beq_iff_eq] at hs
  obtain ⟨⟨⟨⟨htable, hlocal⟩, hforeign⟩, hdelete⟩, hupdate⟩ := hs
  rw [Relation.shown, Relation.shown, hu, htable, hlocal, hforeign, hdelete, hupdate]

omit hu in
theorem map_shown_indices {is is' : List Index} (hi : is.map (Index.unseen p) = is'.map (Index.unseen p))
    (hm : ∀ i ∈ is, i ∈ e.allIndices) (hm' : ∀ i ∈ is', i ∈ e'.allIndices) :
    is.map (Index.shown p) = is'.map (Index.shown p) := by
  obtain ⟨_, _, ⟨_, _, hmodified⟩, _⟩ := isEmpty_iff.1 he
  have hs := forall₂_same_of_modified hd.indices hmodified (fun i j h => congrArg (·.name) h)
    (forall₂_of_map_eq hi) hm hm'
  refine (map_eq_of_forall₂ hs fun i j h => ?_).symm
  obtain ⟨hu, hs⟩ := h
  obtain ⟨hmembers, hunique⟩ : i.members = j.members ∧ i.unique = j.unique := by simpa [Index.sameShape] using hs
  rw [Index.shown, Index.shown, hu, hmembers, hunique]

/-- An entity shows what no comparison looks at, and what this comparison found unchanged. -/
theorem shown_eq_of_isEmpty : e.shown p = e'.shown p := by
  have hindices : e.indices.map (Index.unseen p) = e'.indices.map (Index.unseen p) := congrArg (·.indices) hu
  have huniques : e.uniques.map (Index.unseen p) = e'.uniques.map (Index.unseen p) := congrArg (·.uniques) hu
  refine Entity.Shown.ext (congrArg (·.frame) hu) (map_shown_fields hd hu he) (map_shown_relations hd hu he) ?_ ?_
  · exact map_shown_indices hd he hindices (fun _ => List.mem_append_left _) fun _ => List.mem_append_left _
  · exact map_shown_indices hd he huniques (fun _ => List.mem_append_right _) fun _ => List.mem_append_right _

end

end EntityDiff

namespace Database

def keyTargets (db : Database) : List String :=
  db.entitiesForSql.flatMap fun e => (e.relations.filter fun r => !r.skipSql).map (·.foreignEntity)

theorem mem_keyTargets (he : e ∈ s.entitiesForSql) {r : Relation} (hr : r ∈ e.relations)
    (hs : r.skipSql = false) :
    r.foreignEntity ∈ s.keyTargets :=
  List.mem_flatMap.2 ⟨e, he, List.mem_map_of_mem (List.mem_filter.2 ⟨hr, by simp [hs]⟩)⟩

theorem Addressed.nodup_names (hs : s.Addressed) : (s.entitiesForSql.map (·.name)).Nodup :=
  hs.nodup_entityNames.sublist (List.filter_sublist.map _)

end Database

/-- What scripts show and no comparison looks at is the same. Entities without tables of their own
are not compared, so those that foreign keys lead to show the same altogether. -/
structure Platform.SameUnseen (p : Platform) (s t : Database) : Prop where
  vendor : VendorOptions.forDialect s.vendor p.name = VendorOptions.forDialect t.vendor p.name
  named : ∀ x ∈ s.entitiesForSql.map (·.name) ++ t.entitiesForSql.map (·.name), ∀ e ∈ s.entity? x,
    ∀ e' ∈ t.entity? x, e.unseen p = e'.unseen p
  targets : ∀ x ∈ s.keyTargets, (s.entity? x).map (Entity.unseen p) = (t.entity? x).map (Entity.unseen p)
  ineligible : ∀ x ∈ s.keyTargets, ∀ e ∈ s.entity? x, e.sqlEligible = false → p.AgreeAt s t x

instance (p : Platform) (s t : Database) (x : String) : Decidable (p.AgreeAt s t x) :=
  inferInstanceAs (Decidable (_ = _))

instance (p : Platform) (s t : Database) : Decidable (p.SameUnseen s t) :=
  decidable_of_iff (_ ∧ _ ∧ _ ∧ _)
    ⟨fun h => ⟨h.1, h.2.1, h.2.2.1, h.2.2.2⟩, fun h => ⟨h.vendor, h.named, h.targets, h.ineligible⟩⟩

namespace DatabaseDiff

theorem isEmpty_compare_iff : (compare s t).isEmpty = true ↔
    (∀ e ∈ t.entitiesForSql, s.entity? e.name ≠ none) ∧ (∀ e ∈ s.entitiesForSql, t.entity? e.name ≠ none) ∧
      ∀ e' ∈ t.entitiesForSql, ∀ e, s.entity? e'.name = some e → (EntityDiff.compare e e').isEmpty = true := by
  have hunknown (s t : Database) : (unknownTo s t).isEmpty = true ↔
      ∀ e ∈ t.entitiesForSql, s.entity? e.name ≠ none := by
    rw [List.isEmpty_iff, List.eq_nil_iff_forall_not_mem]
    simp only [mem_unknownTo_iff, not_and, List.mem_map, forall_exists_index, and_imp, forall_apply_eq_imp_iff₂]
  have hmodified : (compare s t).modifiedEntities.all EntityDiff.isEmpty = true ↔
      ∀ e' ∈ t.entitiesForSql, ∀ e, s.entity? e'.name = some e → (EntityDiff.compare e e').isEmpty = true := by
    rw [List.all_eq_true]
    constructor
    · intro h e' he' e he
      cases hd : (EntityDiff.compare e e').isEmpty with
      | true => rfl
      | false => exact hd.symm.trans (h _ (mem_modifiedEntities_iff.2 ⟨e', he', e, he, rfl, hd⟩))
    · intro h d hd
      obtain ⟨e', he', e, he, rfl, _⟩ := mem_modifiedEntities_iff.1 hd
      exact h e' he' e he
  simp only [isEmpty, Bool.and_eq_true, hmodified]
  simp only [compare, hunknown, List.isEmpty_nil, and_true, and_assoc]

variable (hs : s.Addressed) (ht : t.Addressed) (hd : ∀ e ∈ s.entitiesForSql, e.DistinctParts)
    (hu : p.SameUnseen s t)
  (he : (compare s t).isEmpty = true)

include hs ht hu he

omit ht in
theorem exists_target (hm : e ∈ s.entitiesForSql) : ∃ e' ∈ t.entitiesForSql, t.entity? e.name = some e' ∧
    e'.name = e.name ∧ e.unseen p = e'.unseen p ∧ (EntityDiff.compare e e').isEmpty = true := by
  obtain ⟨hme, heligible⟩ := Database.mem_entitiesForSql.1 hm
  have hse := hs.entity?_eq hme
  obtain ⟨_, hremoved, hmodified⟩ := isEmpty_compare_iff.1 he
  obtain ⟨e', he'⟩ := Option.ne_none_iff_exists'.1 (hremoved e hm)
  have hunseen := hu.named e.name (List.mem_append_left _ (List.mem_map_of_mem hm)) e hse e' he'
  have hname : e'.name = e.name := congrArg (·.frame.name) hunseen.symm
  have heligible' : e'.sqlEligible = true := (congrArg (·.frame.sqlEligible) hunseen.symm).trans heligible
  have hm' : e' ∈ t.entitiesForSql := Database.mem_entitiesForSql.2 ⟨Database.mem_of_entity? he', heligible'⟩
  exact ⟨e', hm', he', hname, hunseen, hmodified e' hm' e (hname ▸ hse)⟩

omit hs in
theorem exists_source (hm : e' ∈ t.entitiesForSql) : ∃ e ∈ s.entitiesForSql, e.name = e'.name := by
  obtain ⟨hme, heligible⟩ := Database.mem_entitiesForSql.1 hm
  obtain ⟨hadded, _⟩ := isEmpty_compare_iff.1 he
  obtain ⟨e, hse⟩ := Option.ne_none_iff_exists'.1 (hadded e' hm)
  have hunseen := hu.named e'.name (List.mem_append_right _ (List.mem_map_of_mem hm)) e hse e' (ht.entity?_eq hme)
  have heligible' : e.sqlEligible = true := (congrArg (·.frame.sqlEligible) hunseen).trans heligible
  exact ⟨e, Database.mem_entitiesForSql.2 ⟨Database.mem_of_entity? hse, heligible'⟩,
    congrArg (·.frame.name) hunseen⟩

theorem perm_names : (t.entitiesForSql.map (·.name)).Perm (s.entitiesForSql.map (·.name)) := by
  refine (List.perm_ext_iff_of_nodup ht.nodup_names hs.nodup_names).2 fun x => ?_
  simp only [List.mem_map]
  constructor
  · rintro ⟨e', hm', rfl⟩
    exact exists_source ht hu he hm'
  · rintro ⟨e, hm, rfl⟩
    obtain ⟨e', hm', _, hname, _⟩ := exists_target hs hu he hm
    exact ⟨e', hm', hname⟩

include hd

omit ht in
theorem agreeAt_of_mem (hm : e ∈ s.entitiesForSql) : p.AgreeAt s t e.name := by
  obtain ⟨e', _, he', _, hunseen, hempty⟩ := exists_target hs hu he hm
  have hse := hs.entity?_eq (Database.mem_entitiesForSql.1 hm).1
  exact Platform.agreeAt_iff.2 (.inr ⟨e, e', hse, he', EntityDiff.shown_eq_of_isEmpty (hd e hm) hunseen hempty⟩)

theorem agreeAt_of_mem_keyTargets (hx : x ∈ s.keyTargets) : p.AgreeAt s t x := by
  have hunseen := hu.targets x hx
  cases hsx : s.entity? x with
  | none =>
      rw [hsx] at hunseen
      exact Platform.agreeAt_iff.2 (.inl ⟨hsx, Option.map_eq_none_iff.1 hunseen.symm⟩)
  | some a =>
      cases heligible : a.sqlEligible with
      | false => exact hu.ineligible x hx a hsx heligible
      | true =>
          -- A key may lead to its entity by a qualified name, while the comparison goes by short ones.
          rw [hsx] at hunseen
          obtain ⟨a', hta, haa⟩ := Option.map_eq_some_iff.1 hunseen.symm
          have hname : a'.name = a.name := congrArg (·.frame.name) haa
          have ha : a ∈ s.entitiesForSql := Database.mem_entitiesForSql.2 ⟨Database.mem_of_entity? hsx, heligible⟩
          have hown := agreeAt_of_mem hs hd hu he ha
          have hta' := ht.entity?_eq (Database.mem_of_entity? hta)
          rw [Platform.AgreeAt, hs.entity?_eq (Database.mem_of_entity? hsx), ← hname, hta'] at hown
          rw [Platform.AgreeAt, hsx, hta, hown]

theorem covered_of_isEmpty : ∀ name ∈ s.entitiesForSql.map (·.name), p.Covered s t name := by
  intro name hname
  obtain ⟨e, hm, rfl⟩ := List.mem_map.1 hname
  refine ⟨agreeAt_of_mem hs hd hu he hm, fun a ha r hr hskip => ?_⟩
  obtain rfl := Option.some.inj ((hs.entity?_eq (Database.mem_entitiesForSql.1 hm).1).symm.trans ha)
  exact agreeAt_of_mem_keyTargets hs ht hd hu he (Database.mem_keyTargets hm hr hskip)

/-- A comparison that finds nothing leaves nothing to do, as long as what it does not look at is the
same: both databases have one script, with the blocks of their entities in the order of each. -/
theorem creation_of_isEmpty_compare :
    (t.entitiesForSql.map (·.name)).Perm (s.entitiesForSql.map (·.name)) ∧
    (t.entitiesForSql.map (·.name) = s.entitiesForSql.map (·.name) → p.createDatabase t = p.createDatabase s) ∧
    (s.UniqueTargets (s.entitiesForSql.map (·.name)) →
      (∃ block : String → Script × Script,
        p.createDatabase s = .ok (p.layout ((s.entitiesForSql.map (·.name)).map block)) ∧
        p.createDatabase t = .ok (p.layout ((t.entitiesForSql.map (·.name)).map block)) ∧
        ∀ name ∈ s.entitiesForSql.map (·.name), ∀ e ∈ s.entity? name, p.IsBlockOf e (block name)) ∨
      ∃ fault fault', p.createDatabase s = .error fault ∧ p.createDatabase t = .error fault') := by
  have hperm := perm_names hs ht hu he
  have hcovered := covered_of_isEmpty hs ht hd hu he
  have hcreate : p.createDatabase t = p.createInOrder s (t.entitiesForSql.map (·.name)) := by
    rw [Platform.createDatabase_eq]
    exact (Platform.createInOrder_congr hs ht hu.vendor fun name hm => hcovered name (hperm.mem_iff.1 hm)).symm
  refine ⟨hperm, fun hnames => ?_, fun hunique => ?_⟩
  · rw [hcreate, hnames, Platform.createDatabase_eq]
  · rw [hcreate, Platform.createDatabase_eq]
    exact Platform.createInOrder_perm hs hunique hperm

end DatabaseDiff

def readingDocument (swapped : Bool) : SchemaDocument :=
  let author : Document.Entity :=
    { name := "author", fields := [{ name := "code", fieldType := some "INTEGER", primaryKey := true }] }
  let book : Document.Entity :=
    { name := "book"
      fields := [{ name := "writer", fieldType := some "INTEGER" }]
      relations := [{ foreignEntity := "author", references := [("writer", "code")] }] }
  { databases := [{ name := "library", entities := if swapped then [book, author] else [author, book] }] }

theorem creation_of_isEmpty_compare_reading : ∃ s t,
    (readingDocument false).finalized? { dialect := .mysql } = some s ∧
    (readingDocument true).finalized? { dialect := .mysql } = some t ∧
    s.Addressed ∧ t.Addressed ∧ (∀ e ∈ s.entitiesForSql, e.DistinctParts) ∧
    Platform.SameUnseen { dialect := .mysql } s t ∧ (DatabaseDiff.compare s t).isEmpty = true ∧
    s.UniqueTargets (s.entitiesForSql.map (·.name)) ∧ s.entitiesForSql.map (·.name) = ["author", "book"] ∧
    t.entitiesForSql.map (·.name) = ["book", "author"] ∧
    ∃ block : String → Script × Script,
      Platform.createDatabase { dialect := .mysql } s =
        .ok (Platform.layout { dialect := .mysql } [block "author", block "book"]) ∧
      Platform.createDatabase { dialect := .mysql } t =
        .ok (Platform.layout { dialect := .mysql } [block "book", block "author"]) := by
  have hf : ((readingDocument false).finalized? { dialect := .mysql }).any (fun s =>
      ((readingDocument true).finalized? { dialect := .mysql }).any fun t =>
        (Platform.createDatabase { dialect := .mysql } s).toOption.isSome &&
          decide (∀ e ∈ s.entitiesForSql, e.DistinctParts) &&
          decide (Platform.SameUnseen { dialect := .mysql } s t) && (DatabaseDiff.compare s t).isEmpty &&
          decide (s.UniqueTargets (s.entitiesForSql.map (·.name))) &&
          decide (s.entitiesForSql.map (·.name) = ["author", "book"]) &&
          decide (t.entitiesForSql.map (·.name) = ["book", "author"])) = true := by
    decide +kernel
  obtain ⟨s, hs, hf⟩ := (Option.any_eq_true _ _).1 hf
  obtain ⟨t, ht, hf⟩ := (Option.any_eq_true _ _).1 hf
  simp only [Bool.and_eq_true, decide_eq_true_eq] at hf
  obtain ⟨⟨⟨⟨⟨⟨hc, hd⟩, hu⟩, he⟩, hunique⟩, hsn⟩, htn⟩ := hf
  obtain ⟨script, hc⟩ := Option.isSome_iff_exists.1 hc
  have hc := except_toOption_eq_some_iff.1 hc
  obtain ⟨a, hla, hra⟩ := SchemaDocument.loadedFrom_of_finalized? hs
  obtain ⟨b, hlb, hrb⟩ := SchemaDocument.loadedFrom_of_finalized? ht
  have has := (hla.fresh.of_finalize Registry.additive_builtins hra).1
  have hat := (hlb.fresh.of_finalize Registry.additive_builtins hrb).1
  obtain ⟨_, _, hblocks⟩ := DatabaseDiff.creation_of_isEmpty_compare has hat hd hu he
  refine ⟨s, t, hs, ht, has, hat, hd, hu, he, hunique, hsn, htn, ?_⟩
  obtain ⟨block, hcs, hct, _⟩ | ⟨fault, _, hfault, _⟩ := hblocks hunique
  · rw [hsn] at hcs
    rw [htn] at hct
    exact ⟨block, hcs, hct⟩
  · rw [hc] at hfault
    cases hfault

def volumeDocument (table : Option String) : SchemaDocument :=
  { databases := [
      { name := "library"
        entities := [{ name := "book", table, fields := [{ name := "title", fieldType := some "VARCHAR" }] }] }] }

def essayDocument (swapped : Bool) : SchemaDocument :=
  let author : Document.Entity :=
    { name := "author"
      fields := [{ name := "name", fieldType := some "INTEGER" },
        { name := "address", fieldType := some "INTEGER" }] }
  let book : Document.Entity :=
    { name := "book"
      fields := [{ name := "writer", fieldType := some "INTEGER" }]
      relations := [{ foreignEntity := "author", references := [("writer", "name")] }] }
  let essay : Document.Entity :=
    { name := "essay"
      fields := [{ name := "writer", fieldType := some "INTEGER" }]
      relations := [{ foreignEntity := "author", references := [("writer", "address")] }] }
  { databases := [{ name := "library", entities := author :: if swapped then [essay, book] else [book, essay] }] }

/-- Books, and essays that have been renamed to books since. -/
def renamedLibrary? : Option Database :=
  let title : Document.Field := { name := "title", fieldType := some "VARCHAR" }
  let doc : SchemaDocument :=
    { databases := [
        { name := "library", entities := [{ name := "book", fields := [title] },
          { name := "essay", fields := [title] }] }] }
  (doc.build .builtins).toOption.bind fun schema =>
    schema.databases.head?.map (·.modifyEntity "essay" (Entity.setName "book"))

/-- Another table is no change, although the scripts then create different tables. Nor is another
order of entities that each make other fields unique, although tables list these in that order, nor an
entity that goes by the name of an earlier one, although that one is then created twice. -/
theorem exists_unnoticed_change :
    (∃ a b s t script script', LoadedFrom .builtins (volumeDocument none) a ∧
      (Database.finalize .builtins {}).result a = .ok s ∧
      LoadedFrom .builtins (volumeDocument (some "volume")) b ∧
      (Database.finalize .builtins {}).result b = .ok t ∧ (DatabaseDiff.compare s t).isEmpty = true ∧
      Platform.createDatabase {} s = .ok script ∧ Platform.createDatabase {} t = .ok script' ∧
      (∃ st ∈ script, st.created? = some "book") ∧ ∀ st ∈ script', st.created? ≠ some "book") ∧
    (∃ a b s t script script', LoadedFrom .builtins (essayDocument false) a ∧
      (Database.finalize .builtins {}).result a = .ok s ∧ LoadedFrom .builtins (essayDocument true) b ∧
      (Database.finalize .builtins {}).result b = .ok t ∧ (DatabaseDiff.compare s t).isEmpty = true ∧
      Platform.SameUnseen {} s t ∧
      Platform.createDatabase {} s = .ok script ∧ Platform.createDatabase {} t = .ok script' ∧
      ∃ st ∈ script, st ∉ script') ∧
    ∃ a b s t script script', LoadedFrom .builtins (volumeDocument none) a ∧
      (Database.finalize .builtins {}).result a = .ok s ∧ renamedLibrary? = some b ∧
      (Database.finalize .builtins {}).result b = .ok t ∧ (DatabaseDiff.compare s t).isEmpty = true ∧
      Platform.SameUnseen {} s t ∧
      Platform.createDatabase {} s = .ok script ∧ Platform.createDatabase {} t = .ok script' ∧
      script.countP (·.created? = some "book") = 1 ∧ script'.countP (·.created? = some "book") = 2 := by
  refine ⟨?_, ?_, ?_⟩
  · have hf : ((volumeDocument none).finalized? {}).any (fun s =>
        ((volumeDocument (some "volume")).finalized? {}).any fun t =>
          (Platform.createDatabase {} s).toOption.any fun script =>
          (Platform.createDatabase {} t).toOption.any fun script' =>
            (DatabaseDiff.compare s t).isEmpty && decide (∃ st ∈ script, st.created? = some "book") &&
              decide (∀ st ∈ script', st.created? ≠ some "book")) = true := by
      decide +kernel
    obtain ⟨s, hs, hf⟩ := (Option.any_eq_true _ _).1 hf
    obtain ⟨t, ht, hf⟩ := (Option.any_eq_true _ _).1 hf
    obtain ⟨script, hcs, hf⟩ := (Option.any_eq_true _ _).1 hf
    obtain ⟨script', hct, hf⟩ := (Option.any_eq_true _ _).1 hf
    simp only [Bool.and_eq_true, decide_eq_true_eq] at hf
    obtain ⟨⟨he, hbook⟩, hvolume⟩ := hf
    obtain ⟨a, hla, hra⟩ := SchemaDocument.loadedFrom_of_finalized? hs
    obtain ⟨b, hlb, hrb⟩ := SchemaDocument.loadedFrom_of_finalized? ht
    exact ⟨a, b, s, t, script, script', hla, hra, hlb, hrb, he, except_toOption_eq_some_iff.1 hcs,
      except_toOption_eq_some_iff.1 hct, hbook, hvolume⟩
  · have hf : ((essayDocument false).finalized? {}).any (fun s =>
        ((essayDocument true).finalized? {}).any fun t =>
          (Platform.createDatabase {} s).toOption.any fun script =>
          (Platform.createDatabase {} t).toOption.any fun script' =>
            (DatabaseDiff.compare s t).isEmpty && decide (Platform.SameUnseen {} s t) &&
              decide (∃ st ∈ script, st ∉ script')) = true := by
      decide +kernel
    obtain ⟨s, hs, hf⟩ := (Option.any_eq_true _ _).1 hf
    obtain ⟨t, ht, hf⟩ := (Option.any_eq_true _ _).1 hf
    obtain ⟨script, hcs, hf⟩ := (Option.any_eq_true _ _).1 hf
    obtain ⟨script', hct, hf⟩ := (Option.any_eq_true _ _).1 hf
    simp only [Bool.and_eq_true, decide_eq_true_eq] at hf
    obtain ⟨⟨he, hu⟩, hst⟩ := hf
    obtain ⟨a, hla, hra⟩ := SchemaDocument.loadedFrom_of_finalized? hs
    obtain ⟨b, hlb, hrb⟩ := SchemaDocument.loadedFrom_of_finalized? ht
    exact ⟨a, b, s, t, script, script', hla, hra, hlb, hrb, he, hu, except_toOption_eq_some_iff.1 hcs,
      except_toOption_eq_some_iff.1 hct, hst⟩
  · have hf : ((volumeDocument none).finalized? {}).any (fun s => renamedLibrary?.any fun b =>
        ((Database.finalize .builtins {}).result b).toOption.any fun t =>
          (Platform.createDatabase {} s).toOption.any fun script =>
          (Platform.createDatabase {} t).toOption.any fun script' =>
            (DatabaseDiff.compare s t).isEmpty && decide (Platform.SameUnseen {} s t) &&
              decide (script.countP (·.created? = some "book") = 1 ∧
                script'.countP (·.created? = some "book") = 2)) = true := by
      decide +kernel
    obtain ⟨s, hs, hf⟩ := (Option.any_eq_true _ _).1 hf
    obtain ⟨b, hb, hf⟩ := (Option.any_eq_true _ _).1 hf
    obtain ⟨t, ht, hf⟩ := (Option.any_eq_true _ _).1 hf
    obtain ⟨script, hcs, hf⟩ := (Option.any_eq_true _ _).1 hf
    obtain ⟨script', hct, hf⟩ := (Option.any_eq_true _ _).1 hf
    simp only [Bool.and_eq_true, decide_eq_true_eq] at hf
    obtain ⟨⟨he, hu⟩, hcount⟩ := hf
    obtain ⟨a, hla, hra⟩ := SchemaDocument.loadedFrom_of_finalized? hs
    exact ⟨a, b, s, t, script, script', hla, hra, hb, except_toOption_eq_some_iff.1 ht, he, hu,
      except_toOption_eq_some_iff.1 hcs, except_toOption_eq_some_iff.1 hct, hcount⟩

end Tablecraft
