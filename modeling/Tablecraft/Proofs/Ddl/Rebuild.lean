import Tablecraft.Proofs.Ddl.ColumnMigration

namespace Tablecraft

open List Edit

variable {p : Platform} {diff : DatabaseDiff} {source target : Entity} {d : EntityDiff} {script : Script}
  {a b : String} {old new : Field} {pair : NamePair}

namespace EntityDiff

def fieldPairs (d : EntityDiff) : List NamePair := d.renamedFields ++ d.modifiedFields

/-- The difference takes a field of the source for one of the target: a pair has their names, or
they have one name, which is not added and to which no pair leads. -/
def Matches (d : EntityDiff) (a b : String) : Prop :=
  ⟨a, b⟩ ∈ d.fieldPairs ∨ a = b ∧ b ∉ d.addedFields ∧ ∀ pair ∈ d.fieldPairs, pair.target ≠ b

structure Coherent (d : EntityDiff) : Prop where
  added : ∀ pair ∈ d.fieldPairs, pair.target ∉ d.addedFields
  unique : ∀ pair ∈ d.fieldPairs, ∀ other ∈ d.fieldPairs, pair.target = other.target → pair = other

/-- Rows are copied by the first rename that leads to the new name, else under the name itself. -/
def Copies (d : EntityDiff) (a b : String) : Prop :=
  b ∉ d.addedFields ∧ (d.renamedFields.find? (·.target == b) = some ⟨a, b⟩ ∨
    a = b ∧ ∀ pair ∈ d.renamedFields, pair.target ≠ b)

theorem Coherent.copies_of_renamed (hc : d.Coherent) (h : ⟨a, b⟩ ∈ d.renamedFields) : d.Copies a b := by
  have hf : (d.renamedFields.find? (·.target == b)).isSome = true :=
    List.find?_isSome.2 ⟨_, h, beq_self_eq_true _⟩
  obtain ⟨pair, hpair⟩ := Option.isSome_iff_exists.1 hf
  have hm := List.mem_append_left d.modifiedFields h
  obtain rfl := hc.unique _ (List.mem_append_left _ (List.mem_of_find?_eq_some hpair)) _ hm
    (by simpa using List.find?_some hpair)
  exact ⟨hc.added _ hm, .inl hpair⟩

theorem Coherent.copies_self (hc : d.Coherent) (h : ⟨b, b⟩ ∈ d.fieldPairs) : d.Copies b b := by
  by_cases hr : ∃ pair ∈ d.renamedFields, pair.target = b
  · obtain ⟨pair, hpair, ht⟩ := hr
    obtain rfl := hc.unique _ (List.mem_append_left _ hpair) _ h ht
    exact hc.copies_of_renamed hpair
  · exact ⟨hc.added _ h, .inr ⟨rfl, fun pair hpair ht => hr ⟨pair, hpair, ht⟩⟩⟩

/-- What is copied is what the difference says where each changed field keeps its name or is
renamed. -/
theorem Coherent.copies_iff (hc : d.Coherent)
    (hm : ∀ pair ∈ d.modifiedFields, pair.target = b → pair.source = pair.target ∨ pair ∈ d.renamedFields) :
    d.Copies a b ↔ d.Matches a b := by
  constructor
  · rintro ⟨ha, hr | ⟨rfl, hfree⟩⟩
    · exact .inl (List.mem_append_left _ (List.mem_of_find?_eq_some hr))
    · by_cases hpair : ∃ pair ∈ d.modifiedFields, pair.target = a
      · obtain ⟨⟨name, other⟩, hpair, ht⟩ := hpair
        obtain rfl : other = a := ht
        rcases hm _ hpair rfl with hs | hr
        · obtain rfl : name = other := hs
          exact .inl (List.mem_append_right _ hpair)
        · exact absurd rfl (hfree _ hr)
      · refine .inr ⟨rfl, ha, fun pair hp ht => ?_⟩
        rcases List.mem_append.1 hp with hp | hp
        · exact hfree pair hp ht
        · exact hpair ⟨pair, hp, ht⟩
  · rintro (hpair | ⟨rfl, ha, hfree⟩)
    · rcases List.mem_append.1 hpair with hr | hr
      · exact hc.copies_of_renamed hr
      · rcases hm _ hr rfl with hs | hr
        · obtain rfl : a = b := hs
          exact hc.copies_self hpair
        · exact hc.copies_of_renamed hr
    · exact ⟨ha, .inr ⟨rfl, fun pair hp => hfree pair (List.mem_append_left _ hp)⟩⟩

section

variable (hc : d.Coherent) (hm : pair ∈ d.modifiedFields) (hr : pair ∉ d.renamedFields)

include hc hm hr

theorem Coherent.copies_target_iff : d.Copies a pair.target ↔ a = pair.target := by
  have hp := List.mem_append_right d.renamedFields hm
  have hfree : ∀ rename ∈ d.renamedFields, rename.target ≠ pair.target := fun rename h ht =>
    hr (hc.unique _ (List.mem_append_left _ h) _ hp ht ▸ h)
  constructor
  · rintro ⟨_, h | ⟨h, _⟩⟩
    · exact absurd rfl (hfree ⟨a, pair.target⟩ (List.mem_of_find?_eq_some h))
    · exact h
  · rintro rfl
    exact ⟨hc.added _ hp, .inr ⟨rfl, hfree⟩⟩

omit hr in
theorem Coherent.matches_target_iff : d.Matches a pair.target ↔ a = pair.source := by
  have hp := List.mem_append_right d.renamedFields hm
  constructor
  · rintro (h | ⟨_, _, hfree⟩)
    · exact congrArg NamePair.source (hc.unique _ h _ hp rfl)
    · exact absurd rfl (hfree _ hp)
  · rintro rfl
    exact .inl hp

end

/-- Among fields that both tables have, what is copied is what the difference says, exactly if every
changed field with two names, as far as the tables have them, is renamed as well. -/
theorem Coherent.forall_copies_iff (hc : d.Coherent) :
    (∀ old new, source.field? old.name = some old → new ∈ target.fields →
      (d.Copies old.name new.name ↔ d.Matches old.name new.name)) ↔
    ∀ pair ∈ d.modifiedFields, pair.source ≠ pair.target → pair ∉ d.renamedFields →
      target.hasField pair.target = true →
        source.hasField pair.source = false ∧ source.hasField pair.target = false := by
  constructor
  · intro hall pair hm hne hr hnew
    obtain ⟨new, hnew⟩ := Entity.exists_field? hnew
    have hlost {name : String} (h : source.hasField name = true) : name = pair.target ↔ name = pair.source := by
      obtain ⟨old, ho⟩ := Entity.exists_field? h
      obtain rfl := Entity.name_of_field? ho
      have hsame := hall old new ho (Entity.mem_of_field? hnew)
      rwa [Entity.name_of_field? hnew, hc.copies_target_iff hm hr, hc.matches_target_iff hm] at hsame
    exact ⟨Bool.eq_false_iff.2 fun h => hne ((hlost h).2 rfl), Bool.eq_false_iff.2 fun h =>
      hne ((hlost h).1 rfl).symm⟩
  · intro hall old new ho hnew
    by_cases hm : ∀ pair ∈ d.modifiedFields, pair.target = new.name →
        pair.source = pair.target ∨ pair ∈ d.renamedFields
    · exact hc.copies_iff hm
    · -- the source has neither name of a pair that is no rename
      push Not at hm
      obtain ⟨pair, hm, hname, hne, hr⟩ := hm
      obtain ⟨hsource, hsame⟩ := hall pair hm hne hr (Entity.hasField_iff.2 (hname ▸ List.mem_map_of_mem hnew))
      rw [← hname, hc.copies_target_iff hm hr, hc.matches_target_iff hm]
      refine iff_of_false (fun h => ?_) fun h => ?_
      · rw [← h, Entity.hasField_of_field? ho] at hsame
        cases hsame
      · rw [← h, Entity.hasField_of_field? ho] at hsource
        cases hsource

end EntityDiff

namespace Platform

def keptFields? (source : Entity) (d : EntityDiff) (f : Field) : Option (Field × Field) :=
  if d.addedFields.contains f.name then none
  else
    let name := ((d.renamedFields.find? (·.target == f.name)).map (·.source)).getD f.name
    (source.field? name).map fun old => (old, f)

theorem keptColumn?_eq : keptColumn? source d new = (keptFields? source d new).map fieldColumns := by
  unfold keptColumn? keptFields?
  split
  · rfl
  · rw [Option.map_map]
    rfl

theorem keptFields?_eq_some_iff {fields : Field × Field} : keptFields? source d new = some fields ↔
    fields.2 = new ∧ source.field? fields.1.name = some fields.1 ∧ d.Copies fields.1.name new.name := by
  obtain ⟨old, f⟩ := fields
  unfold keptFields? EntityDiff.Copies
  by_cases ha : new.name ∈ d.addedFields
  · simp [ha]
  · simp only [List.contains_eq_mem, decide_eq_true_eq, if_neg ha, Option.map_eq_some_iff, Prod.mk.injEq]
    cases hr : d.renamedFields.find? (·.target == new.name) with
    | none =>
        have hfree : ∀ pair ∈ d.renamedFields, pair.target ≠ new.name := by simpa using hr
        constructor
        · rintro ⟨g, hg, rfl, rfl⟩
          obtain hn := Entity.name_of_field? hg
          exact ⟨rfl, by rw [hn]; exact hg, ha, .inr ⟨hn, hfree⟩⟩
        · rintro ⟨rfl, hf, _, h | ⟨hn, _⟩⟩
          · cases h
          · exact ⟨old, by rw [← hf, hn]; rfl, rfl, rfl⟩
    | some pair =>
        have ht : pair.target = new.name := by simpa using List.find?_some hr
        constructor
        · rintro ⟨g, hg, rfl, rfl⟩
          obtain hn := Entity.name_of_field? hg
          refine ⟨rfl, by rw [hn]; exact hg, ha, .inl ?_⟩
          rw [hn, ← ht]
          rfl
        · rintro ⟨rfl, hf, _, h | ⟨_, hfree⟩⟩
          · rw [Option.some.inj h]
            exact ⟨old, hf, rfl, rfl⟩
          · exact absurd ht (hfree pair (List.mem_of_find?_eq_some hr))

theorem sublist_keptFields? (source : Entity) (d : EntityDiff) (fields : List Field) :
    ((fields.filterMap (keptFields? source d)).map Prod.snd).Sublist fields := by
  induction fields with
  | nil => exact .slnil
  | cons f rest ih =>
      cases hf : keptFields? source d f with
      | none =>
          rw [List.filterMap_cons_none hf]
          exact ih.cons f
      | some pair =>
          rw [List.filterMap_cons_some hf, List.map_cons, (keptFields?_eq_some_iff.1 hf).1]
          exact ih.cons_cons f

theorem mem_filterMap_keptFields?_iff {old new : Field} {fields : List Field} :
    (old, new) ∈ fields.filterMap (keptFields? source d) ↔
      source.field? old.name = some old ∧ new ∈ fields ∧ d.Copies old.name new.name := by
  rw [List.mem_filterMap]
  constructor
  · rintro ⟨f, hf, hk⟩
    obtain ⟨rfl, ho, hd⟩ := keptFields?_eq_some_iff.1 hk
    exact ⟨ho, hf, hd⟩
  · rintro ⟨ho, hm, hd⟩
    exact ⟨new, hm, keptFields?_eq_some_iff.2 ⟨rfl, ho, hd⟩⟩

/-- The rows that a script of SQLite saves and restores when it builds a table anew are those of the
fields that are copied, in the order of the new table. These are the fields that the difference
matches, exactly if every changed field with two names, as far as the tables have them, is renamed
as well. -/
theorem rows_of_migrateEntity (hp : p.dialect = .sqlite) (hn : needsRebuild d = true)
    (h : p.migrateEntity diff d = .ok script) :
    ∃ (source target : Entity) (created : Script) (kept : List (Field × Field)),
      diff.renamedSource d = .ok source ∧ diff.targetNamed d.target = .ok target ∧
      p.addEntity diff.target target = .ok created ∧
      script = .saveRows (target.table ++ "__temp__") (kept.map fun fields => fields.1.column)
        (p.tableName source) ::
        created ++ p.addIndices target ++ [.restoreRows (target.table ++ "__temp__")
          (kept.map fun fields => (fields.1.column, fields.2.column)) (p.tableName target)] ∧
      (kept.map Prod.snd).Sublist target.fields ∧
      (∀ old new, (old, new) ∈ kept ↔
        source.field? old.name = some old ∧ new ∈ target.fields ∧ d.Copies old.name new.name) ∧
      (d.Coherent →
        ((∀ old new, (old, new) ∈ kept ↔
          source.field? old.name = some old ∧ new ∈ target.fields ∧ d.Matches old.name new.name) ↔
        ∀ pair ∈ d.modifiedFields, pair.source ≠ pair.target → pair ∉ d.renamedFields →
          target.hasField pair.target = true →
            source.hasField pair.source = false ∧ source.hasField pair.target = false)) := by
  obtain ⟨source, hs, h⟩ := except_bind_eq_ok_iff.1 h
  obtain ⟨target, ht, h⟩ := except_bind_eq_ok_iff.1 h
  rw [hp] at h
  change p.migrateOrRebuild diff source target d = .ok script at h
  rw [migrateOrRebuild, if_pos hn] at h
  obtain ⟨created, hc, h⟩ := except_bind_eq_ok_iff.1 h
  refine ⟨source, target, created, target.fields.filterMap (keptFields? source d), hs, ht, hc, ?_,
    sublist_keptFields? source d _, fun _ _ => mem_filterMap_keptFields?_iff, fun hd => ?_⟩
  · have hcolumns : target.fields.filterMap (keptColumn? source d) =
        (target.fields.filterMap (keptFields? source d)).map fieldColumns := by
      rw [List.map_filterMap]
      exact congrArg (List.filterMap · _) (funext fun f => keptColumn?_eq)
    rw [← Except.ok.inj h, hcolumns, List.map_map]
    rfl
  · simp only [mem_filterMap_keptFields?_iff, and_congr_right_iff]
    exact hd.forall_copies_iff

end Platform

def swappedDiff : EntityDiff :=
  { EntityDiff.ofName "book" with
    addedFields := ["note"]
    removedFields := ["note", "old"]
    renamedFields := [⟨"first", "second"⟩, ⟨"second", "first"⟩]
    modifiedFields := [⟨"id", "id"⟩] }

theorem rows_of_migrateEntity_swapped : ∃ source target script a b created, ∃ kept : List (Field × Field),
    (columnsDocument [("id", "id"), ("first", "a"), ("second", "b"), ("note", "n"), ("old", "x")]).finalized?
      { dialect := .sqlite } = some source ∧
    (columnsDocument [("id", "id"), ("first", "c"), ("second", "d"), ("note", "n")]).finalized?
      { dialect := .sqlite } = some target ∧
    Platform.migrateEntity { dialect := .sqlite } { source, target } swappedDiff = .ok script ∧
    script = .saveRows (b.table ++ "__temp__") (kept.map fun fields => fields.1.column)
      (Platform.tableName { dialect := .sqlite } a) :: created ++ Platform.addIndices { dialect := .sqlite } b ++
        [.restoreRows (b.table ++ "__temp__") (kept.map fun fields => (fields.1.column, fields.2.column))
          (Platform.tableName { dialect := .sqlite } b)] ∧
    ∀ old new, (old, new) ∈ kept ↔
      a.field? old.name = some old ∧ new ∈ b.fields ∧ swappedDiff.Matches old.name new.name := by
  have hf : ((columnsDocument [("id", "id"), ("first", "a"), ("second", "b"), ("note", "n"),
      ("old", "x")]).finalized? { dialect := .sqlite }).any (fun source =>
      ((columnsDocument [("id", "id"), ("first", "c"), ("second", "d"), ("note", "n")]).finalized?
        { dialect := .sqlite }).any fun target =>
      (Platform.migrateEntity { dialect := .sqlite } { source, target } swappedDiff).toOption.isSome) = true := by
    decide +kernel
  obtain ⟨source, hs, hf⟩ := (Option.any_eq_true _ _).1 hf
  obtain ⟨target, ht, hf⟩ := (Option.any_eq_true _ _).1 hf
  obtain ⟨script, hm⟩ := Option.isSome_iff_exists.1 hf
  have hm := except_toOption_eq_some_iff.1 hm
  obtain ⟨a, b, created, kept, _, _, _, hscript, _, _, hkept⟩ :=
    Platform.rows_of_migrateEntity (p := { dialect := .sqlite }) rfl rfl hm
  refine ⟨source, target, script, a, b, created, kept, hs, ht, hm, hscript, (hkept ⟨by decide, by decide⟩).2 ?_⟩
  intro pair hpair hne
  obtain rfl := List.mem_singleton.1 hpair
  exact absurd rfl hne

/-- A column that is changed under another name is not copied. -/
theorem exists_rows_lost : ∃ source target a b script,
    (columnsDocument [("id", "id"), ("title", "t")]).finalized? { dialect := .sqlite } = some source ∧
    (columnsDocument [("id", "id"), ("heading", "h")]).finalized? { dialect := .sqlite } = some target ∧
    source.entity? "book" = some a ∧ target.entity? "book" = some b ∧
    (a.field? "title").map Field.column = some "t" ∧ (b.field? "heading").map Field.column = some "h" ∧
    { EntityDiff.ofName "book" with modifiedFields := [⟨"title", "heading"⟩] }.Matches "title" "heading" ∧
    Platform.migrateEntity { dialect := .sqlite } { source, target }
      { EntityDiff.ofName "book" with modifiedFields := [⟨"title", "heading"⟩] } = .ok script ∧
    script.head? = some (.saveRows "book__temp__" ["id"] "book") ∧
    script.getLast? = some (.restoreRows "book__temp__" [("id", "id")] "book") := by
  have hf : ((columnsDocument [("id", "id"), ("title", "t")]).finalized? { dialect := .sqlite }).any
      (fun source =>
      ((columnsDocument [("id", "id"), ("heading", "h")]).finalized? { dialect := .sqlite }).any fun target =>
      (source.entity? "book").any fun a => (target.entity? "book").any fun b =>
      (Platform.migrateEntity { dialect := .sqlite } { source, target }
        { EntityDiff.ofName "book" with modifiedFields := [⟨"title", "heading"⟩] }).toOption.any fun script =>
      decide ((a.field? "title").map Field.column = some "t" ∧ (b.field? "heading").map Field.column = some "h" ∧
        script.head? = some (.saveRows "book__temp__" ["id"] "book") ∧
        script.getLast? = some (.restoreRows "book__temp__" [("id", "id")] "book"))) = true := by
    decide +kernel
  obtain ⟨source, hs, hf⟩ := (Option.any_eq_true _ _).1 hf
  obtain ⟨target, ht, hf⟩ := (Option.any_eq_true _ _).1 hf
  obtain ⟨a, ha, hf⟩ := (Option.any_eq_true _ _).1 hf
  obtain ⟨b, hb, hf⟩ := (Option.any_eq_true _ _).1 hf
  obtain ⟨script, hm, hf⟩ := (Option.any_eq_true _ _).1 hf
  obtain ⟨htitle, hheading, hsaved, hrestored⟩ := of_decide_eq_true hf
  exact ⟨source, target, a, b, script, hs, ht, ha, hb, htitle, hheading, .inl (List.mem_singleton_self _),
    except_toOption_eq_some_iff.1 hm, hsaved, hrestored⟩

end Tablecraft
