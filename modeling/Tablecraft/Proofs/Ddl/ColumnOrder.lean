import Tablecraft.Proofs.Ddl.ColumnMigration

namespace Tablecraft

open List Edit

variable {p : Platform} {diff : DatabaseDiff} {source target e : Entity} {d : EntityDiff} {script : Script}
  {columns removed : List String} {previous column : String} {f g : Field}

def insertBehind (previous column : String) : List String → List String
  | [] => []
  | c :: rest => if c = previous then c :: column :: rest else c :: insertBehind previous column rest

theorem mem_insertBehind {c : String} (hp : previous ∈ columns) :
    c ∈ insertBehind previous column columns ↔ c = column ∨ c ∈ columns := by
  induction columns with
  | nil => cases hp
  | cons x rest ih =>
      by_cases hx : x = previous
      · simp only [insertBehind, if_pos hx, List.mem_cons]
        tauto
      · have hrest : previous ∈ rest := by simpa [Ne.symm hx] using hp
        simp only [insertBehind, if_neg hx, List.mem_cons, ih hrest]
        tauto

theorem filter_insertBehind {q : String → Bool} (hp : q previous = true) (hc : q column = true) :
    (insertBehind previous column columns).filter q = insertBehind previous column (columns.filter q) := by
  induction columns with
  | nil => rfl
  | cons x rest ih =>
      by_cases hx : x = previous
      · simp [insertBehind, hx, hp, hc]
      · by_cases hq : q x = true <;> simp [insertBehind, hx, hq, ih]

theorem insertBehind_append {before after : List String} (hp : previous ∉ before) :
    insertBehind previous column (before ++ previous :: after) = before ++ previous :: column :: after := by
  induction before with
  | nil => simp [insertBehind]
  | cons x rest ih =>
      obtain ⟨hx, hrest⟩ := not_or.1 (mt List.mem_cons.2 hp)
      simp [insertBehind, Ne.symm hx, ih hrest]

def AlterClause.place (columns : List String) : AlterClause → Option (List String)
  | .change old clause => some (columns.map fun c => if c = old then clause.name else c)
  | .add clause .first => some (clause.name :: columns)
  | .add clause (.after previous) =>
    if previous ∈ columns then some (insertBehind previous clause.name columns) else none
  | .add clause .last => some (columns ++ [clause.name])
  | .drop column => some (columns.filter (· ≠ column))
  | .dropPrimaryKey | .addPrimaryKey _ => some columns

def AlterClause.placeAll (clauses : List AlterClause) (columns : List String) : Option (List String) :=
  clauses.foldlM place columns

def Statement.alterClauses : Statement → List AlterClause
  | .alterOnce _ clause => [clause]
  | .alterTable _ clauses => clauses
  | _ => []

def Script.columnOrder (script : Script) (columns : List String) : Option (List String) :=
  AlterClause.placeAll (script.flatMap Statement.alterClauses) columns

namespace AlterClause

variable {clauses rest : List AlterClause}

theorem placeAll_append :
    placeAll (clauses ++ rest) columns = (placeAll clauses columns).bind (placeAll rest) := by
  rw [placeAll, List.foldlM_append]
  rfl

theorem placeAll_stays (h : ∀ clause ∈ clauses, place columns clause = some columns) :
    placeAll clauses columns = some columns := by
  induction clauses with
  | nil => rfl
  | cons clause rest ih =>
      obtain ⟨hclause, hrest⟩ := List.forall_mem_cons.1 h
      rw [placeAll, List.foldlM_cons, hclause]
      exact ih hrest

theorem placeAll_drops : placeAll (removed.map .drop) columns = some (columns.filter (· ∉ removed)) := by
  induction removed generalizing columns with
  | nil => simp [placeAll]
  | cons c rest ih =>
      rw [List.map_cons, placeAll, List.foldlM_cons, place]
      refine ih.trans ?_
      rw [List.filter_filter]
      refine congrArg some (List.filter_congr fun x _ => ?_)
      simp [Bool.and_comm]

theorem place_change {clause : ColumnClause} (h : clause.name = column) :
    place columns (.change column clause) = some columns := by
  have hself : (fun c => if c = column then clause.name else c) = id := by
    funext c
    split
    · exact h.trans (Eq.symm ‹_›)
    · rfl
  rw [place, hself, List.map_id]

theorem placeAll_ite {clause : AlterClause} (b : Bool) (h : place columns clause = some columns) :
    placeAll (if b then [clause] else []) columns = some columns := by
  refine placeAll_stays fun other hm => ?_
  split at hm
  · rwa [List.mem_singleton.1 hm]
  · cases hm

theorem alterClauses_alterTable (table : String) (clauses : List AlterClause) :
    (if clauses.isEmpty then [] else [Statement.alterTable table clauses]).flatMap Statement.alterClauses =
      clauses := by
  cases clauses <;> simp [Statement.alterClauses]

end AlterClause

/-- The columns of a table on the way to the target: those of the fields up to some place are there,
and of the others those that stay. Without the removed ones they stand in the target's order. -/
structure Placed (removed : List String) (stays : Field → Bool) (before after : List Field)
    (columns : List String) : Prop where
  passed : ∀ f ∈ before, f.column ∈ columns
  waiting : ∀ f ∈ after, stays f = true → f.column ∈ columns
  order : (∀ f ∈ before ++ after, f.column ∉ removed) →
    columns.filter (· ∉ removed) = (before ++ after.filter stays).map Field.column

namespace Placed

variable {stays : Field → Bool} {before after : List Field}

theorem pass (h : Placed removed stays before (f :: after) columns) (hf : stays f = true) :
    Placed removed stays (before ++ [f]) after columns := by
  obtain ⟨hhead, hwaiting⟩ := List.forall_mem_cons.1 h.waiting
  refine ⟨?_, hwaiting, fun hfree => ?_⟩
  · exact List.forall_mem_append.2 ⟨h.passed, List.forall_mem_singleton.2 (hhead hf)⟩
  · rw [h.order (by simpa using hfree), List.filter_cons_of_pos hf]
    simp

theorem insert (h : Placed removed stays before (f :: after) columns) {columns' : List String}
    (hm : ∀ c, c ∈ columns' ↔ c = f.column ∨ c ∈ columns)
    (hord : (∀ f' ∈ before ++ f :: after, f'.column ∉ removed) → columns'.filter (· ∉ removed) =
      before.map Field.column ++ f.column :: (after.filter stays).map Field.column) :
    Placed removed stays (before ++ [f]) after columns' := by
  have hwaiting := (List.forall_mem_cons.1 h.waiting).2
  refine ⟨?_, fun f' hf' hs => (hm _).2 (.inr (hwaiting f' hf' hs)), fun hfree => ?_⟩
  · refine List.forall_mem_append.2 ⟨fun f' hf' => (hm _).2 (.inr (h.passed f' hf')),
      List.forall_mem_singleton.2 ?_⟩
    exact (hm _).2 (.inl rfl)
  · rw [hord (by simpa using hfree)]
    simp

/-- One clause puts the next column behind the last one in place. -/
theorem exists_place (h : Placed removed stays before (f :: after) columns) (hf : stays f = false)
    (hn : target.Numbered) (hct : (target.fields.map Field.column).Nodup)
    (he : target.fields = before ++ f :: after) {clause : AlterClause}
    (hc : p.insertColumn target f = .ok clause) :
    ∃ columns', clause.place columns = some columns' ∧ Placed removed stays (before ++ [f]) after columns' := by
  obtain ⟨definition, hd, hc⟩ := except_bind_eq_ok_iff.1 hc
  obtain rfl := Except.ok.inj hc
  have hname := Platform.name_columnClause hd
  have horder (hfree : ∀ f' ∈ before ++ f :: after, f'.column ∉ removed) :
      columns.filter (· ∉ removed) = before.map Field.column ++ (after.filter stays).map Field.column := by
    have hord := h.order hfree
    rwa [List.filter_cons_of_neg (by simp [hf]), List.map_append] at hord
  rw [Platform.columnPlace_eq hn he]
  rcases List.eq_nil_or_concat before with rfl | ⟨rest, g, rfl⟩
  · refine ⟨f.column :: columns, by rw [← hname]; rfl, h.insert (fun c => List.mem_cons) fun hfree => ?_⟩
    have hfr : f.column ∉ removed := hfree f (by simp)
    rw [List.filter_cons_of_pos (by simpa using hfr), horder hfree]
    rfl
  · have hg : g.column ∈ columns := h.passed g (by simp)
    refine ⟨insertBehind g.column f.column columns, by simp [AlterClause.place, hname, hg],
      h.insert (fun c => mem_insertBehind hg) fun hfree => ?_⟩
    have hfr : f.column ∉ removed := hfree f (by simp)
    have hgr : g.column ∉ removed := hfree g (by simp)
    have hrest : g.column ∉ rest.map Field.column := by
      rw [he] at hct
      simp only [List.concat_eq_append, List.append_assoc, List.map_append, List.map_cons,
        List.singleton_append] at hct
      exact fun hm => (List.nodup_append.1 hct).2.2 _ hm _ (List.mem_cons_self ..) rfl
    rw [filter_insertBehind (by simpa using hgr) (by simpa using hfr), horder hfree]
    simp only [List.concat_eq_append, List.map_append, List.map_cons, List.map_nil, List.append_assoc,
      List.singleton_append]
    exact insertBehind_append hrest

/-- The clauses for all new fields put every column in place. -/
theorem exists_placeAll (hn : target.Numbered) (hct : (target.fields.map Field.column).Nodup)
    (he : target.fields = before ++ after) (h : Placed removed stays before after columns)
    {clauses : List AlterClause}
    (hc : Forall₂ (fun f clause => p.insertColumn target f = .ok clause)
      (after.filter fun f => !stays f) clauses) :
    ∃ columns', AlterClause.placeAll clauses columns = some columns' ∧
      Placed removed stays target.fields [] columns' := by
  induction after generalizing before columns clauses with
  | nil =>
      obtain rfl := List.forall₂_nil_left_iff.1 hc
      rw [List.append_nil] at he
      exact ⟨columns, rfl, he ▸ h⟩
  | cons f rest ih =>
      have he' : target.fields = (before ++ [f]) ++ rest := by simp [he]
      cases hf : stays f with
      | true =>
          rw [List.filter_cons_of_neg (by simp [hf])] at hc
          exact ih he' (h.pass hf) hc
      | false =>
          rw [List.filter_cons_of_pos (by simp [hf])] at hc
          obtain ⟨clause, more, hclause, hmore, rfl⟩ := List.forall₂_cons_left_iff.1 hc
          obtain ⟨columns', hplace, hplaced⟩ := h.exists_place hf hn hct he hclause
          obtain ⟨columns'', hrun, hdone⟩ := ih he' hplaced hmore
          refine ⟨columns'', ?_, hdone⟩
          rw [AlterClause.placeAll, List.foldlM_cons, hplace]
          exact hrun

end Placed

theorem Entity.eq_filter_of_missing (hn : e.fieldNames.Nodup) {others : Entity} {found : List Field}
    (h : (Compare.missing Field.name e.fields others.fields).mapM e.findField = .ok found) :
    found = e.fields.filter fun f => !others.hasField f.name := by
  have hfound := (mapM_eq_ok_iff.1 h).imp fun _ _ h => Entity.findField_eq_ok_iff.1 h
  refine Entity.eq_of_forall₂_field? hn (fun f hf => (List.mem_filter.1 hf).1) ?_
  have hmissing : Compare.missing Field.name e.fields others.fields =
      (e.fields.filter fun f => !others.hasField f.name).map (·.name) := by
    rw [Compare.missing, List.filter_map]
    refine congrArg (List.map Field.name) (List.filter_congr fun f _ => ?_)
    rw [Bool.eq_iff_iff, Function.comp_apply, Bool.not_eq_true', Bool.not_eq_true', ← Bool.not_eq_true,
      ← Bool.not_eq_true, Entity.hasField_iff]
    simp [Entity.fieldNames]
  rwa [hmissing] at hfound

section

variable (hs : source.fieldNames.Nodup) (ht : target.fieldNames.Nodup)
  (hcs : (source.fields.map Field.column).Nodup) (hct : (target.fields.map Field.column).Nodup)
  (hk : ∀ f ∈ source.fields, ∀ g ∈ target.fields, f.name = g.name → f.column = g.column)
  (ho : source.fieldNames.filter target.hasField = target.fieldNames.filter source.hasField)

include hs hk ho

/-- Fields that stay have one list of columns in both entities. -/
theorem columns_of_shared : (source.fields.filter fun f => target.hasField f.name).map Field.column =
    (target.fields.filter fun g => source.hasField g.name).map Field.column := by
  have hsource : (source.fieldNames.filter target.hasField).map (fun n => (source.field? n).map Field.column) =
      ((source.fields.filter fun f => target.hasField f.name).map Field.column).map some := by
    rw [Entity.fieldNames, List.filter_map, List.map_map, List.map_map]
    refine List.map_congr_left fun f hf => ?_
    have hm := (Entity.field?_eq_some_iff hs).2 ⟨(List.mem_filter.1 hf).1, rfl⟩
    simp [hm]
  have htarget : (target.fieldNames.filter source.hasField).map (fun n => (source.field? n).map Field.column) =
      ((target.fields.filter fun g => source.hasField g.name).map Field.column).map some := by
    rw [Entity.fieldNames, List.filter_map, List.map_map, List.map_map]
    refine List.map_congr_left fun g hg => ?_
    obtain ⟨hm, hshared⟩ := List.mem_filter.1 hg
    obtain ⟨f, hf⟩ := Entity.exists_field? hshared
    have hcolumn := hk f (Entity.mem_of_field? hf) g hm (Entity.name_of_field? hf)
    simp [hf, hcolumn]
  rw [ho, htarget] at hsource
  exact (List.map_injective_iff.2 (Option.some_injective _) hsource).symm

include hcs in
theorem Placed.start : Placed ((source.fields.filter fun f => !target.hasField f.name).map Field.column)
    (fun g => source.hasField g.name) [] target.fields (source.fields.map Field.column) := by
  refine ⟨by simp, fun g hg hshared => ?_, fun _ => ?_⟩
  · obtain ⟨f, hf⟩ := Entity.exists_field? hshared
    rw [← hk f (Entity.mem_of_field? hf) g hg (Entity.name_of_field? hf)]
    exact List.mem_map_of_mem (Entity.mem_of_field? hf)
  · rw [List.nil_append, ← columns_of_shared hs hk ho, List.filter_map]
    refine congrArg (List.map Field.column) (List.filter_congr fun f hf => ?_)
    have hremoved : f.column ∈ (source.fields.filter fun f => !target.hasField f.name).map Field.column ↔
        target.hasField f.name = false := by
      constructor
      · intro hm
        obtain ⟨f', hf', hff⟩ := List.mem_map.1 hm
        obtain ⟨hm', hgone⟩ := List.mem_filter.1 hf'
        obtain rfl := List.inj_on_of_nodup_map hcs hm' hf hff
        simpa using hgone
      · exact fun hgone => List.mem_map_of_mem (List.mem_filter.2 ⟨hf, by simp [hgone]⟩)
    rw [Bool.eq_iff_iff, Function.comp_apply, decide_eq_true_eq, hremoved, Bool.not_eq_false]

end

namespace Platform

theorem placeAll_changeColumns {pairs : List (Field × Field)} {changes : List AlterClause}
    (h : Forall₂ (fun pair clause => p.changeColumn target pair = .ok clause) pairs changes)
    (hsame : ∀ pair ∈ pairs, pair.1.column = pair.2.column) :
    AlterClause.placeAll changes columns = some columns := by
  refine AlterClause.placeAll_stays fun clause hm => ?_
  obtain ⟨pair, hpair, hclause⟩ := FirstMatch.exists_of_mem' h hm
  obtain ⟨definition, hdef, hclause⟩ := except_bind_eq_ok_iff.1 hclause
  rw [← Except.ok.inj hclause]
  exact AlterClause.place_change ((name_columnClause hdef).trans (hsame pair hpair).symm)

/-- Where columns are changed under the names that they keep, the script adds columns and then drops
some. -/
theorem columnOrder_of_additions (h : p.migrateMerged diff source target d = .ok script) :
    ∃ (c : FieldChanges source target d) (additions : List AlterClause),
      Forall₂ (fun f clause => p.insertColumn target f = .ok clause) c.added additions ∧
      ((∀ pair ∈ c.renamed ++ c.changed, pair.1.column = pair.2.column) → ∀ columns,
        script.columnOrder columns = (AlterClause.placeAll additions columns).map
          (List.filter (· ∉ c.removed.map Field.column))) := by
  obtain ⟨c, drops, creations, changes, additions, hdrops, hcreations, hchanges, hadditions, clauses, hclauses,
    rfl⟩ := migrateMerged_eq_ok h
  refine ⟨c, additions, hadditions, fun hsame columns => ?_⟩
  have hd : drops.flatMap Statement.alterClauses = [] :=
    List.flatMap_eq_nil_iff.2 (of_mem_dropConstraints (fun _ _ => rfl) (fun _ _ => rfl) hdrops)
  have hc : creations.flatMap Statement.alterClauses = [] :=
    List.flatMap_eq_nil_iff.2 (of_mem_addConstraints (fun _ _ => rfl) (fun _ _ _ _ => rfl) hcreations)
  rw [Script.columnOrder, List.flatMap_append, List.flatMap_append, hd, hc, AlterClause.alterClauses_alterTable,
    List.nil_append, List.append_nil, hclauses, AlterClause.placeAll_append, AlterClause.placeAll_append,
    AlterClause.placeAll_append, AlterClause.placeAll_append, AlterClause.placeAll_ite _ rfl, Option.bind_some,
    placeAll_changeColumns hchanges hsame, Option.bind_some]
  cases AlterClause.placeAll additions columns with
  | none => rfl
  | some placed =>
      have hdrops := @AlterClause.placeAll_drops placed (c.removed.map Field.column)
      rw [List.map_map] at hdrops
      rw [Option.bind_some]
      exact (congrArg (Option.bind · _) hdrops).trans (AlterClause.placeAll_ite _ rfl)

section

variable (hs : source.fieldNames.Nodup) (ht : target.fieldNames.Nodup)
  (hcs : (source.fields.map Field.column).Nodup) (hct : (target.fields.map Field.column).Nodup)
  (hn : target.Numbered)
  (hk : ∀ f ∈ source.fields, ∀ g ∈ target.fields, f.name = g.name → f.column = g.column)
  (ho : source.fieldNames.filter target.hasField = target.fieldNames.filter source.hasField)

include hs ht hcs hct hn hk ho

theorem columnOrder_migrateMerged (h : p.migrateMerged diff source target (.compare source target) = .ok script) :
    ∃ columns, script.columnOrder (source.fields.map Field.column) = some columns ∧
      (columns = target.fields.map Field.column ↔ ∀ f ∈ source.fields, target.hasField f.name = false →
        f.column ∉ target.fields.map Field.column) := by
  obtain ⟨c, additions, hadditions, hrun⟩ := columnOrder_of_additions h
  have hsame : ∀ pair ∈ c.renamed ++ c.changed, pair.1.column = pair.2.column := by
    have hrenamed : c.renamed = [] := (Except.ok.inj c.renamed_eq).symm
    have hd : EntityDiff.compare source target = (EntityDiff.compare source target).declareRenames [] := by
      simp only [EntityDiff.declareRenames, List.map_nil, List.contains_nil, Bool.not_false, List.filter_true]
      rfl
    rw [hrenamed]
    exact c.column_eq_of_mem_changed hd hk
  rw [Entity.eq_filter_of_missing ht c.added_eq] at hadditions
  rw [Entity.eq_filter_of_missing hs c.removed_eq] at hrun
  obtain ⟨columns, hplaced, hdone⟩ := (Placed.start hs hcs hk ho).exists_placeAll hn hct rfl hadditions
  refine ⟨_, by rw [hrun hsame, hplaced]; rfl, fun heq f hf hgone hm => ?_, fun hfree => ?_⟩
  · rw [← heq] at hm
    have hremoved : f.column ∈ (source.fields.filter fun f => !target.hasField f.name).map Field.column :=
      List.mem_map_of_mem (List.mem_filter.2 ⟨hf, by simp [hgone]⟩)
    exact absurd hremoved (by simpa using (List.mem_filter.1 hm).2)
  · rw [hdone.order, List.filter_nil, List.append_nil]
    intro g hg hm
    rw [List.append_nil] at hg
    obtain ⟨f, hf, hfg⟩ := List.mem_map.1 hm
    obtain ⟨hf, hgone⟩ := List.mem_filter.1 hf
    exact hfree f hf (by simpa using hgone) (hfg ▸ List.mem_map_of_mem hg)

/-- Replayed on the columns of the source in their order, the script of MySQL for an entity finds the
column behind which each new one goes, and ends with the columns of the target in their order, exactly
if no column of a removed field is one of the target's. -/
theorem columnOrder_migrateEntity (hp : p.dialect = .mysql)
    (hsource : diff.source.entity? source.name = some source)
    (htarget : diff.target.entity? target.name = some target)
    (h : p.migrateEntity diff (.compare source target) = .ok script) :
    ∃ columns, script.columnOrder (source.fields.map Field.column) = some columns ∧
      (columns = target.fields.map Field.column ↔ ∀ f ∈ source.fields, target.hasField f.name = false →
        f.column ∉ target.fields.map Field.column) := by
  obtain ⟨old, hold, h⟩ := except_bind_eq_ok_iff.1 h
  obtain ⟨new, hnew, h⟩ := except_bind_eq_ok_iff.1 h
  obtain rfl := Option.some.inj (htarget.symm.trans (entity?_of_findEntity hnew))
  rw [hp] at h
  change p.migrateMerged diff old target (.compare source target) = .ok script at h
  rcases eq_or_retabled_of_renamedSource hsource hold with rfl | ⟨table, rfl⟩
  · exact columnOrder_migrateMerged hs ht hcs hct hn hk ho h
  · rw [← EntityDiff.compare_retabled table] at h
    rw [← @Entity.columns_retabled source table] at hcs ⊢
    have hfields : (source.retabled table).fields = source.fields.map fun f =>
        { f with entity := some source.name } :=
      rfl
    have hhas : (source.retabled table).hasField = source.hasField := by
      funext name
      rw [Entity.hasField, Entity.field?_retabled, Option.isSome_map]
      rfl
    obtain ⟨columns, hrun, hiff⟩ := columnOrder_migrateMerged (by rwa [Entity.fieldNames_retabled]) ht hcs hct hn
      (by rw [hfields, List.forall_mem_map]; exact hk) (by rwa [Entity.fieldNames_retabled, hhas]) h
    refine ⟨columns, hrun, hiff.trans ?_⟩
    rw [hfields, List.forall_mem_map]
    exact Iff.rfl

end

end Platform

/-- New columns come first, last and in between, and the one in front of them goes. -/
theorem columnOrder_migrateEntity_mixed : ∃ source target a b script,
    (columnsDocument [("gone", "g"), ("id", "id"), ("old", "o"), ("title", "t")]).finalized?
      { dialect := .mysql } = some source ∧
    (columnsDocument [("front", "f"), ("id", "id"), ("one", "x"), ("two", "y"), ("title", "t"),
      ("back", "b")]).finalized? { dialect := .mysql } = some target ∧
    source.entity? "book" = some a ∧ target.entity? "book" = some b ∧ b.Numbered ∧
    a.fieldNames.filter b.hasField = b.fieldNames.filter a.hasField ∧
    Platform.migrateEntity { dialect := .mysql } { source, target } (.compare a b) = .ok script ∧
    script.columnOrder ["g", "id", "o", "t"] = some ["f", "id", "x", "y", "t", "b"] := by
  have hf : ((columnsDocument [("gone", "g"), ("id", "id"), ("old", "o"), ("title", "t")]).finalized?
      { dialect := .mysql }).any (fun source =>
      ((columnsDocument [("front", "f"), ("id", "id"), ("one", "x"), ("two", "y"), ("title", "t"),
        ("back", "b")]).finalized? { dialect := .mysql }).any fun target =>
      (source.entity? "book").any fun a => (target.entity? "book").any fun b =>
      (Platform.migrateEntity { dialect := .mysql } { source, target } (.compare a b)).toOption.any fun _ =>
      decide (a.fieldNames.Nodup ∧ b.fieldNames.Nodup ∧ a.fields.map Field.column = ["g", "id", "o", "t"] ∧
        b.fields.map Field.column = ["f", "id", "x", "y", "t", "b"] ∧
        b.fields.map (·.position) = List.range' 1 b.fields.length ∧
        (∀ f ∈ a.fields, ∀ g ∈ b.fields, f.name = g.name → f.column = g.column) ∧
        a.fieldNames.filter b.hasField = b.fieldNames.filter a.hasField ∧
        (∀ f ∈ a.fields, b.hasField f.name = false → f.column ∉ b.fields.map Field.column)) &&
      decide (a.name = "book" ∧ b.name = "book")) = true := by
    decide +kernel
  obtain ⟨source, hs, hf⟩ := (Option.any_eq_true _ _).1 hf
  obtain ⟨target, ht, hf⟩ := (Option.any_eq_true _ _).1 hf
  obtain ⟨a, ha, hf⟩ := (Option.any_eq_true _ _).1 hf
  obtain ⟨b, hb, hf⟩ := (Option.any_eq_true _ _).1 hf
  obtain ⟨script, hm, hf⟩ := (Option.any_eq_true _ _).1 hf
  rw [Bool.and_eq_true, decide_eq_true_eq, decide_eq_true_eq] at hf
  obtain ⟨⟨hna, hnb, hca, hcb, hn, hk, ho, hfree⟩, han, hbn⟩ := hf
  have hm := except_toOption_eq_some_iff.1 hm
  obtain ⟨columns, hrun, hiff⟩ := Platform.columnOrder_migrateEntity hna hnb (by rw [hca]; decide)
    (by rw [hcb]; decide) hn hk ho rfl (by rw [han]; exact ha) (by rw [hbn]; exact hb) hm
  rw [hca, hiff.2 hfree, hcb] at hrun
  exact ⟨source, target, a, b, script, hs, ht, ha, hb, hn, ho, hm, hrun⟩

/-- Where new fields take over the columns of removed ones, both are there when columns are dropped,
and no rule to drop the first or the last or each of them leaves the target. -/
theorem exists_order_lost : ∃ source target a b script,
    (columnsDocument [("x", "a"), ("id", "id"), ("y", "b")]).finalized? { dialect := .mysql } = some source ∧
    (columnsDocument [("u", "b"), ("id", "id"), ("v", "a")]).finalized? { dialect := .mysql } = some target ∧
    source.entity? "book" = some a ∧ target.entity? "book" = some b ∧
    a.fields.map Field.column = ["a", "id", "b"] ∧ b.fields.map Field.column = ["b", "id", "a"] ∧
    a.fieldNames.filter b.hasField = b.fieldNames.filter a.hasField ∧
    (∀ f ∈ a.fields, ∀ g ∈ b.fields, f.name = g.name → f.column = g.column) ∧
    Platform.migrateEntity { dialect := .mysql } (.compare source target) (.compare a b) = .ok script ∧
    script = [.alterTable "book" [.add { name := "b", definition := "INTEGER" } .first,
      .add { name := "a", definition := "INTEGER" } (.after "id"), .drop "a", .drop "b"]] ∧
    AlterClause.placeAll [.add { name := "b", definition := "INTEGER" } .first,
      .add { name := "a", definition := "INTEGER" } (.after "id")] ["a", "id", "b"] =
        some ["b", "a", "id", "a", "b"] ∧
    script.columnOrder ["a", "id", "b"] = some ["id"] := by
  have hf : ((columnsDocument [("x", "a"), ("id", "id"), ("y", "b")]).finalized?
      { dialect := .mysql }).any (fun source =>
      ((columnsDocument [("u", "b"), ("id", "id"), ("v", "a")]).finalized?
          { dialect := .mysql }).any fun target =>
      (source.entity? "book").any fun a => (target.entity? "book").any fun b =>
      (Platform.migrateEntity { dialect := .mysql } (.compare source target)
          (.compare a b)).toOption.any fun script =>
      decide (a.fields.map Field.column = ["a", "id", "b"] ∧ b.fields.map Field.column = ["b", "id", "a"] ∧
        a.fieldNames.filter b.hasField = b.fieldNames.filter a.hasField ∧
        (∀ f ∈ a.fields, ∀ g ∈ b.fields, f.name = g.name → f.column = g.column) ∧
        script = [.alterTable "book" [.add { name := "b", definition := "INTEGER" } .first,
          .add { name := "a", definition := "INTEGER" } (.after "id"), .drop "a", .drop "b"]])) = true := by
    decide +kernel
  obtain ⟨source, hs, hf⟩ := (Option.any_eq_true _ _).1 hf
  obtain ⟨target, ht, hf⟩ := (Option.any_eq_true _ _).1 hf
  obtain ⟨a, ha, hf⟩ := (Option.any_eq_true _ _).1 hf
  obtain ⟨b, hb, hf⟩ := (Option.any_eq_true _ _).1 hf
  obtain ⟨script, hm, hf⟩ := (Option.any_eq_true _ _).1 hf
  obtain ⟨hca, hcb, ho, hk, rfl⟩ := of_decide_eq_true hf
  exact ⟨source, target, a, b, _, hs, ht, ha, hb, hca, hcb, ho, hk, except_toOption_eq_some_iff.1 hm, rfl,
    by decide, by decide⟩

end Tablecraft
