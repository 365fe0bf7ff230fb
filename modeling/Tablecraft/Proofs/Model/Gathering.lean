import Tablecraft.Behavior.Timestampable
import Tablecraft.Proofs.Document.Loading

namespace Tablecraft

open List Edit

variable {db incoming source target target' : Database} {dbs own own' joined : List Database} {name : String}
  {parent : Option String} {s t : Schema}

def entityNamesIn (name : String) (dbs : List Database) : List String :=
  (dbs.filter (·.name == name)).flatMap (·.entityNames)

@[simp] theorem entityNamesIn_nil (name : String) : entityNamesIn name [] = [] := rfl

@[simp] theorem entityNamesIn_append (name : String) (xs ys : List Database) :
    entityNamesIn name (xs ++ ys) = entityNamesIn name xs ++ entityNamesIn name ys := by
  simp [entityNamesIn]

theorem entityNamesIn_cons_of_eq (h : db.name = name) :
    entityNamesIn name (db :: dbs) = db.entityNames ++ entityNamesIn name dbs := by
  simp [entityNamesIn, h]

theorem entityNamesIn_cons_of_ne (h : db.name ≠ name) :
    entityNamesIn name (db :: dbs) = entityNamesIn name dbs := by
  simp [entityNamesIn, h]

theorem entityNamesIn_eq_nil (h : name ∉ dbs.map (·.name)) : entityNamesIn name dbs = [] := by
  have hf : dbs.filter (·.name == name) = [] := by
    refine List.filter_eq_nil_iff.2 fun db hdb hn => h ?_
    exact List.mem_map.2 ⟨db, hdb, beq_iff_eq.1 hn⟩
  rw [entityNamesIn, hf, List.flatMap_nil]

theorem entityNamesIn_eq_of_mem (hd : (dbs.map (·.name)).Nodup) (hdb : db ∈ dbs) :
    entityNamesIn db.name dbs = db.entityNames := by
  obtain ⟨before, after, rfl⟩ := List.append_of_mem hdb
  rw [List.map_append, List.map_cons, List.nodup_middle, List.nodup_cons, List.mem_append, not_or] at hd
  obtain ⟨⟨hbefore, hafter⟩, -⟩ := hd
  rw [entityNamesIn_append, entityNamesIn_cons_of_eq rfl, entityNamesIn_eq_nil hbefore,
    entityNamesIn_eq_nil hafter]
  simp

namespace Schema

theorem moveEntities_eq_ok (h : moveEntities source source.entityNames target = .ok () target') :
    target'.entityNames = target.entityNames ++ source.entityNames ∧ target'.name = target.name := by
  generalize hes : source.entities = es at h
  unfold Database.entityNames at h ⊢
  rw [hes] at h ⊢
  induction es generalizing source target with
  | nil =>
      cases h
      simp
  | cons e rest ih =>
      have hremove : source.removeEntity? e.name =
          some ({ e with database := none }, { source with entities := rest }) := by
        simp [Database.removeEntity?, hes, FirstMatch.extract?, Entity.isNamed_name]
      by_cases hn : target.hasEntity e.name = true
      · simp [moveEntities, hn] at h
      · have hadd : target.addEntity { e with database := none } =
            .ok { target with entities := target.entities ++ [target.adopt { e with database := none }] } := by
          simp [Database.addEntity, hn]
        have hrest : moveEntities { source with entities := rest } (rest.map (·.name))
            { target with entities := target.entities ++ [target.adopt { e with database := none }] } =
                .ok () target' := by
          simpa [moveEntities, hn, hremove, hadd] using h
        simpa [Database.adopt] using ih hrest rfl

theorem addMissingBehaviors_eq (behaviors : List Behavior) (target : Database) :
    (addMissingBehaviors behaviors target).entityNames = target.entityNames ∧
      (addMissingBehaviors behaviors target).name = target.name := by
  unfold addMissingBehaviors
  induction behaviors generalizing target with
  | nil => exact ⟨rfl, rfl⟩
  | cons b rest ih =>
      rw [List.foldl_cons]
      split
      · exact ih target
      · exact ih { target with behaviors := target.behaviors ++ [b] }

theorem mergeDatabase_eq_ok (h : mergeDatabase incoming target = .ok () target') :
    target'.entityNames = target.entityNames ++ incoming.entityNames ∧ target'.name = target.name := by
  unfold mergeDatabase at h
  split at h
  · cases h
  · rename_i moved hm
    cases h
    obtain ⟨hnames, hname⟩ := moveEntities_eq_ok hm
    obtain ⟨hnames', hname'⟩ := addMissingBehaviors_eq incoming.behaviors moved
    exact ⟨hnames'.trans hnames, hname'.trans hname⟩

theorem any_name_iff : dbs.any (·.name == name) = true ↔ name ∈ dbs.map (·.name) := by
  rw [List.any_eq_true, List.mem_map]
  exact exists_congr fun db => and_congr_right fun _ => beq_iff_eq

theorem nodup_names_append (hd : (own.map (·.name)).Nodup) (hn : db.name ∉ own.map (·.name)) :
    ((own ++ [db]).map (·.name)).Nodup := by
  rw [List.map_append]
  exact List.nodup_append'.2 ⟨hd, List.nodup_singleton _, by simpa using hn⟩

theorem nodup_foldl_adjoin (dbs : List Database) (hd : (own.map (·.name)).Nodup) :
    ((dbs.foldl adjoin own).map (·.name)).Nodup := by
  induction dbs generalizing own with
  | nil => exact hd
  | cons db rest ih =>
      refine ih ?_
      unfold adjoin
      split
      · exact hd
      · rename_i hn
        exact nodup_names_append hd fun hm => hn (any_name_iff.2 hm)

theorem map_name_headers (dbs : List Database) : (dbs.map (·.header)).map (·.name) = dbs.map (·.name) := by
  rw [List.map_map]
  rfl

theorem nodup_of_headers (hd : (own.map (·.name)).Nodup)
    (h : joined.map (·.header) = dbs.foldl adjoin (own.map (·.header))) : (joined.map (·.name)).Nodup := by
  rw [← map_name_headers, h]
  exact nodup_foldl_adjoin dbs (by rwa [map_name_headers])

theorem mem_names_join (h : s.join = .ok () t) :
    name ∈ t.databases.map (·.name) ↔ name ∈ s.gathered.map (·.name) := by
  have hany := any_foldl_adjoin (s.inherited.map (·.header)) (s.databases.map (·.header)) name
  rw [← headers_join h, ← List.map_append, ← gathered_eq] at hany
  rw [← map_name_headers, ← map_name_headers s.gathered, ← any_name_iff, ← any_name_iff, hany]

theorem entityNamesIn_absorb (hd : (own.map (·.name)).Nodup) (h : absorb parent incoming own = .ok () own')
    (name : String) : entityNamesIn name own' = entityNamesIn name own ++ entityNamesIn name [incoming] := by
  unfold absorb at h
  split at h
  · rename_i hany
    obtain ⟨before, d, d', after, rfl, rfl, hname, hmerge⟩ := first_eq_ok hany h
    obtain ⟨hnames, hd'⟩ := mergeDatabase_eq_ok hmerge
    have hname : d.name = incoming.name := beq_iff_eq.1 hname
    by_cases hn : incoming.name = name
    · have hafter : name ∉ after.map (·.name) := by
        rw [List.map_append, List.map_cons, List.nodup_middle, List.nodup_cons, List.mem_append, not_or] at hd
        rw [← hn, ← hname]
        exact hd.1.2
      simp only [entityNamesIn_append]
      rw [entityNamesIn_cons_of_eq (hd'.trans (hname.trans hn)), entityNamesIn_cons_of_eq (hname.trans hn),
        entityNamesIn_cons_of_eq hn, entityNamesIn_eq_nil hafter, hnames]
      simp
    · simp only [entityNamesIn_append]
      rw [entityNamesIn_cons_of_ne (hd'.trans hname ▸ hn), entityNamesIn_cons_of_ne (hname ▸ hn),
        entityNamesIn_cons_of_ne hn]
      simp
  · cases h
    have hparent : entityNamesIn name [{ incoming with parent }] = entityNamesIn name [incoming] := by
      by_cases hn : incoming.name = name <;> simp [entityNamesIn, Database.entityNames, hn]
    rw [entityNamesIn_append, hparent]

theorem entityNamesIn_absorbAll (hd : (own.map (·.name)).Nodup) (h : absorbAll parent dbs own = .ok () own')
    (name : String) : entityNamesIn name own' = entityNamesIn name own ++ entityNamesIn name dbs := by
  induction dbs generalizing own with
  | nil =>
      cases h
      simp
  | cons db rest ih =>
      obtain ⟨_, u, hu, h⟩ := bind_eq_ok_iff.1 h
      have hheaders : u.map (·.header) = [db.header].foldl adjoin (own.map (·.header)) := headers_absorb hu
      have hu' : (u.map (·.name)).Nodup := nodup_of_headers hd hheaders
      rw [ih hu' h, entityNamesIn_absorb hd hu, List.append_assoc, ← entityNamesIn_append]
      rfl

/-- In every schema of the tree the databases have distinct names, as adding them one by one ensures. -/
inductive Distinct : Schema → Prop
  | intro {name : Option String} {databases : List Database} {externals : List Schema} :
      (databases.map (·.name)).Nodup → (∀ s ∈ externals, Distinct s) → Distinct ⟨name, databases, externals⟩

theorem Distinct.nodup_names (h : s.Distinct) : (s.databases.map (·.name)).Nodup := by
  cases h
  assumption

theorem Distinct.of_mem (h : s.Distinct) : ∀ external ∈ s.externals, external.Distinct := by
  cases h
  assumption

mutual

theorem entityNamesIn_join {s t : Schema} (hd : s.Distinct) (h : s.join = .ok () t) (name : String) :
    entityNamesIn name t.databases = entityNamesIn name s.gathered := by
  match s with
  | ⟨_, databases, externals⟩ =>
    rw [entityNamesIn_joinExternals hd.nodup_names hd.of_mem (join_eq_ok h).1, gathered, entityNamesIn_append]

/-- The entities of the externals stand behind one's own, external by external. -/
theorem entityNamesIn_joinExternals {parent : Option String} {externals rest : List Schema}
    {own joined : List Database}
    (ho : (own.map (·.name)).Nodup) (hx : ∀ external ∈ externals, external.Distinct)
    (h : joinExternals parent externals own = .ok rest joined) (name : String) :
    entityNamesIn name joined = entityNamesIn name own ++ entityNamesIn name (gatherAll externals) := by
  match externals with
  | [] =>
    cases h
    simp [gatherAll]
  | external :: others =>
    obtain ⟨he, hothers⟩ := List.forall_mem_cons.1 hx
    obtain ⟨s, u, more, hj, ha, hr, -⟩ := joinExternals_cons_eq_ok h
    have hu : (u.map (·.name)).Nodup := nodup_of_headers ho (headers_absorbAll ha)
    rw [entityNamesIn_joinExternals hu hothers hr, entityNamesIn_absorbAll ho ha,
      entityNamesIn_join he hj, gatherAll, entityNamesIn_append, List.append_assoc]

end

mutual

def vacated : Schema → Schema
  | ⟨name, _, externals⟩ => ⟨name, [], vacateAll externals⟩

def vacateAll : List Schema → List Schema
  | [] => []
  | s :: rest => s.vacated :: vacateAll rest

end

mutual

theorem externals_join {s t : Schema} (h : s.join = .ok () t) : t.externals = vacateAll s.externals := by
  match s with
  | ⟨_, databases, externals⟩ => exact rest_joinExternals (join_eq_ok h).1

theorem rest_joinExternals {parent : Option String} {externals rest : List Schema} {own joined : List Database}
    (h : joinExternals parent externals own = .ok rest joined) : rest = vacateAll externals := by
  match externals with
  | [] =>
    cases h
    rfl
  | external :: others =>
    obtain ⟨s, u, more, hj, -, hr, rfl⟩ := joinExternals_cons_eq_ok h
    have hs : { s with databases := [] } = external.vacated := by
      have hname := (join_eq_ok hj).2
      have hexternals := externals_join hj
      cases external
      rw [vacated, hname, hexternals]
    rw [vacateAll, hs, rest_joinExternals hr]

end

theorem Distinct.addDatabase {s' : Schema} (h : s.Distinct) (ha : s.addDatabase db = .ok s') : s'.Distinct := by
  unfold Schema.addDatabase at ha
  split at ha
  · cases ha
  · rename_i hn
    cases ha
    refine .intro (nodup_names_append h.nodup_names fun hm => hn ?_) h.of_mem
    rw [database?, List.find?_isSome]
    obtain ⟨d, hd, hname⟩ := List.mem_map.1 hm
    exact ⟨d, hd, beq_iff_eq.2 hname⟩

end Schema

namespace SchemaDocument

variable {registry : Registry}

mutual

theorem distinct_build {doc : SchemaDocument} {schema : Schema} (h : doc.build registry = .ok schema) :
    schema.Distinct := by
  match doc with
  | ⟨name, databases, externals⟩ =>
    rw [build] at h
    obtain ⟨own, ho, h⟩ := except_bind_eq_ok_iff.1 h
    obtain ⟨others, hx, h⟩ := except_bind_eq_ok_iff.1 h
    cases h
    have hown : own.Distinct := by
      refine foldlM_keeps (fun s a t hs ht => ?_) (.intro (by simp) (by simp)) ho
      obtain ⟨db, -, ht⟩ := except_bind_eq_ok_iff.1 ht
      exact hs.addDatabase ht
    exact .intro hown.nodup_names (distinct_buildAll hx)

theorem distinct_buildAll {docs : List SchemaDocument} {schemas : List Schema}
    (h : buildAll registry docs = .ok schemas) : ∀ schema ∈ schemas, schema.Distinct := by
  match docs with
  | [] =>
    cases h
    simp
  | d :: rest =>
    rw [buildAll] at h
    obtain ⟨schema, hd, h⟩ := except_bind_eq_ok_iff.1 h
    obtain ⟨others, hr, h⟩ := except_bind_eq_ok_iff.1 h
    cases h
    exact List.forall_mem_cons.2 ⟨distinct_build hd, distinct_buildAll hr⟩

end

end SchemaDocument

namespace Schema

/-- The tree has become one schema: one database for each name, with all entities of that name in the order
of the tree, nothing elsewhere, and nothing left to join. -/
structure Gathers (s t : Schema) : Prop where
  distinct : (t.databases.map (·.name)).Nodup
  names : ∀ name, name ∈ t.databases.map (·.name) ↔ name ∈ s.gathered.map (·.name)
  entities : ∀ name ∈ s.gathered.map (·.name), ∃ db, t.database? name = some db ∧
    db.entityNames = entityNamesIn name s.gathered
  vacated : t.externals = vacateAll s.externals
  settled : t.join = .ok () t

theorem gathers_of_join (hd : s.Distinct) (h : s.join = .ok () t) : s.Gathers t := by
  have hnodup : (t.databases.map (·.name)).Nodup := nodup_of_headers hd.nodup_names (headers_join h)
  have hsettled : t.join = .ok () t := by
    have ht := join_of_ok h t.databases
    cases t
    exact ht
  refine ⟨hnodup, fun name => mem_names_join h, fun name hname => ?_, externals_join h, hsettled⟩
  cases hdb : t.database? name with
  | none =>
      obtain ⟨db, hmem, hn⟩ := List.mem_map.1 ((mem_names_join h).2 hname)
      exact absurd (beq_iff_eq.2 hn) (List.find?_eq_none.1 hdb db hmem)
  | some db =>
      have hmem : db ∈ t.databases := List.mem_of_find?_eq_some hdb
      obtain rfl : db.name = name := by simpa using List.find?_some hdb
      exact ⟨db, rfl, by rw [← entityNamesIn_join hd h, entityNamesIn_eq_of_mem hnodup hmem]⟩

/-- A library that stands in four places of a tree, and a shop that stands in two. -/
def scatteredDocument : SchemaDocument :=
  { databases := [{ name := "library", entities := [{ name := "book" }] }]
    externals := [
      { databases := [{ name := "shop", entities := [{ name := "till" }] },
          { name := "library", entities := [{ name := "shelf" }, { name := "room" }] }]
        externals := [{ databases := [{ name := "library", entities := [{ name := "reader" }] },
          { name := "shop", entities := [{ name := "order" }] }] }] },
      { databases := [{ name := "library", entities := [{ name := "loan" }] }] }] }

theorem gathers_of_join_scattered : ∃ s t, scatteredDocument.build .builtins = .ok s ∧ s.join = .ok () t ∧
    (t.database? "library").map (·.entityNames) = some ["book", "shelf", "room", "reader", "loan"] ∧
    s.Distinct ∧ s.Gathers t := by
  have hrun : (scatteredDocument.build .builtins).toOption.any (fun s => (Edit.result join s).toOption.any fun t =>
      (t.database? "library").map (·.entityNames) == some ["book", "shelf", "room", "reader", "loan"]) = true := by
    decide +kernel
  obtain ⟨s, hs, hrun⟩ := (Option.any_eq_true _ _).1 hrun
  obtain ⟨t, ht, hnames⟩ := (Option.any_eq_true _ _).1 hrun
  have hb := except_toOption_eq_some_iff.1 hs
  have hj := result_eq_ok_iff.1 (except_toOption_eq_some_iff.1 ht)
  have hd := SchemaDocument.distinct_build hb
  exact ⟨s, t, hb, hj, beq_iff_eq.1 hnames, hd, gathers_of_join hd hj⟩

/-- An archive that is given the name of the library beside it. Joining keeps both, and only the first is
found. -/
theorem exists_repeated_name : ∃ first own s t : Schema,
    addDatabase { name := "library", entities := [{ name := "book" }] } {} = .ok first ∧
    addDatabase { name := "archive", entities := [{ name := "shelf" }] } first = .ok own ∧
    s = { own with databases := own.databases.map ({ · with name := "library" }) } ∧ s.join = .ok () t ∧
    t.databases.map (·.name) = ["library", "library"] ∧ entityNamesIn "library" s.gathered = ["book", "shelf"] ∧
    (t.database? "library").map (·.entityNames) = some ["book"] ∧ ¬s.Gathers t := by
  refine ⟨_, _, _, _, rfl, rfl, rfl, rfl, rfl, rfl, rfl, fun h => ?_⟩
  exact absurd h.distinct (by decide)

end Schema

end Tablecraft
