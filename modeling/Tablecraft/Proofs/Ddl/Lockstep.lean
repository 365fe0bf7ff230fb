import Tablecraft.Proofs.Ddl.Shown

namespace Tablecraft

open List Edit FirstMatch

variable {p : Platform} {s s' s'' t t' t'' : Database} {e e' : Entity} {f g : Field} {i j : Index}
    {name x : String}

namespace Entity

theorem primaryKeyNames_congr (he : e.shown p = e'.shown p) : e.primaryKeyNames = e'.primaryKeyNames :=
  (map_eq_of_forall₂ (forall₂_primaryKey he) fun _ _ h => congrArg (·.unseen.name) h.symm).symm

theorem hasField_congr (he : e.shown p = e'.shown p) : e.hasField = e'.hasField := by
  funext name
  have h : (e.field? name).map (Field.shown p) = (e'.field? name).map (Field.shown p) := by
    rw [map_shown_field?, map_shown_field?, he]
  have h := congrArg Option.isSome h
  rwa [Option.isSome_map, Option.isSome_map] at h

theorem isUniqueOn_congr (he : e.shown p = e'.shown p) : e.isUniqueOn = e'.isUniqueOn := by
  funext names
  have hu : e.uniques.map Index.memberNames = e'.uniques.map Index.memberNames := by
    refine (map_eq_of_forall₂ (forall₂_of_map_eq (congrArg (·.uniques) he)) fun i j h => ?_).symm
    exact congrArg (List.map (·.name)) (congrArg (·.members) h.symm)
  have hany : (e.uniques.any fun u => sameMembers names u.memberNames) =
      e'.uniques.any fun u => sameMembers names u.memberNames := by
    have h := congrArg (List.any · (sameMembers names)) hu
    rwa [List.any_map, List.any_map] at h
  rw [isUniqueOn, isUniqueOn, primaryKeyNames_congr he, hany]

theorem hasIndex_congr (he : e.shown p = e'.shown p) : e.hasIndex = e'.hasIndex := by
  funext name
  have hi : e.allIndices.map (Index.shown p) = e'.allIndices.map (Index.shown p) := by
    rw [allIndices, allIndices, List.map_append, List.map_append]
    exact congrArg₂ (· ++ ·) (congrArg (·.indices) he) (congrArg (·.uniques) he)
  have h := congrArg (List.any · (·.unseen.name == name)) hi
  rwa [List.any_map, List.any_map] at h

theorem admitIndex_congr (he : e.shown p = e'.shown p) : e.admitIndex = e'.admitIndex := by
  funext i
  have hname : e.name = e'.name := congrArg (·.frame.name) he
  have htable : e.table = e'.table := congrArg (·.frame.table) he
  have hlimit : e.nameLimit = e'.nameLimit := congrArg (·.frame.nameLimit) he
  rw [admitIndex, admitIndex, hname, htable, hlimit, hasField_congr he, hasIndex_congr he]

/-- The same unique constraint is admitted or refused, and what it is added to still shows the same. -/
theorem addUnique_congr (he : e.shown p = e'.shown p) (i : Index) :
    SameOutcome (fun u u' => u.shown p = u'.shown p) (e.addUnique i) (e'.addUnique i) := by
  rw [addUnique, addUnique, admitIndex_congr he]
  cases e'.admitIndex i with
  | error fault => exact rfl
  | ok j =>
      have hu : (e.uniques ++ [j]).map (Index.shown p) = (e'.uniques ++ [j]).map (Index.shown p) := by
        rw [List.map_append, List.map_append]
        exact congrArg (· ++ [j].map (Index.shown p)) (congrArg (·.uniques) he)
      have hframe : e.frame p = e'.frame p := congrArg (·.frame) he
      exact Shown.ext hframe (congrArg (·.fields) he) (congrArg (·.relations) he) (congrArg (·.indices) he) hu

def ensureUnique (names : List String) (e : Entity) : Except Fault Entity :=
  if e.isUniqueOn names then .ok e else e.addUnique (Index.uniqueOfNames names)

theorem normalized_ensureUnique {names : List String} (h : e.ensureUnique names = .ok e') : e.Normalized e' := by
  unfold ensureUnique at h
  split at h
  · cases h
    exact .refl e
  · obtain ⟨j, _, rfl⟩ := addUnique_eq_ok h
    exact { Normalized.refl e with frame := rfl }

theorem ensureUnique_congr (he : e.shown p = e'.shown p) (names : List String) :
    SameOutcome (fun u u' => u.shown p = u'.shown p) (e.ensureUnique names) (e'.ensureUnique names) := by
  rw [ensureUnique, ensureUnique, isUniqueOn_congr he]
  split
  · exact he
  · exact addUnique_congr he _

end Entity

theorem Index.shown_resetSizes_congr (hi : i.shown p = j.shown p) :
    i.resetSizes.shown p = j.resetSizes.shown p := by
  have hmembers : i.resetSizes.members = j.resetSizes.members := by
    rw [resetSizes, resetSizes, show i.members = j.members from congrArg (·.members) hi]
  have hunique : i.unique = j.unique := congrArg (·.unique) hi
  have hname : i.resetSizes.name = j.resetSizes.name := congrArg (·.unseen.bareName) hi
  have hvendor : VendorOptions.forDialect i.vendor p.name = VendorOptions.forDialect j.vendor p.name :=
    congrArg (·.unseen.vendor) hi
  rw [shown, shown, unseen, unseen, resetSizes_resetSizes, resetSizes_resetSizes, hname, hmembers]
  exact congrArg₂ (fun u v => Index.Shown.mk ⟨j.resetSizes.name, j.resetSizes.name, v⟩ u j.resetSizes.members)
    hunique hvendor

theorem Platform.shown_dropDefaultSize_congr (hf : f.shown p = g.shown p) :
    (p.dropDefaultSize f).shown p = (p.dropDefaultSize g).shown p := by
  have htype : f.fieldType = g.fieldType := congrArg (·.fieldType) hf
  have hsize : f.domain.size = g.domain.size := congrArg (·.size) hf
  have hscale : f.domain.scale = g.domain.scale := congrArg (·.scale) hf
  unfold dropDefaultSize
  rw [htype, hsize, hscale]
  split
  · exact congrArg (fun v => { v with size := none }) hf
  · exact hf

theorem Platform.shown_dropUnusedSizes_congr (he : e.shown p = e'.shown p) :
    (p.dropUnusedSizes e).shown p = (p.dropUnusedSizes e').shown p := by
  have hframe : e.frame p = e'.frame p := congrArg (·.frame) he
  have hrelations : e.relations.map Relation.shown = e'.relations.map Relation.shown := congrArg (·.relations) he
  have hindices : e.indices.map (Index.shown p) = e'.indices.map (Index.shown p) := congrArg (·.indices) he
  have huniques : e.uniques.map (Index.shown p) = e'.uniques.map (Index.shown p) := congrArg (·.uniques) he
  have hfields : e.fields.map (Field.shown p) = e'.fields.map (Field.shown p) := congrArg (·.fields) he
  have hfields := map_map_congr (v := Field.shown p) (fun _ _ => shown_dropDefaultSize_congr) hfields
  unfold dropUnusedSizes
  split
  · exact Entity.Shown.ext hframe hfields hrelations hindices huniques
  · have hindices := map_map_congr (v := Index.shown p) (fun _ _ => Index.shown_resetSizes_congr) hindices
    have huniques := map_map_congr (v := Index.shown p) (fun _ _ => Index.shown_resetSizes_congr) huniques
    exact Entity.Shown.ext hframe hfields hrelations hindices huniques

namespace Platform

/-- A name that leads to an entity, and the name of that entity. -/
theorem AgreeAt.at_name (hs : s.Addressed) (ht : t.Addressed) (hx : p.AgreeAt s t x) (he : s.entity? x = some e) :
    p.AgreeAt s t e.name := by
  obtain ⟨hnone, _⟩ | ⟨e₀, e', he₀, he', hshown⟩ := agreeAt_iff.1 hx
  · rw [he] at hnone
    cases hnone
  · obtain rfl := Option.some.inj (he.symm.trans he₀)
    have hn : e.name = e'.name := congrArg (·.frame.name) hshown
    have ht' := ht.entity?_eq (Database.mem_of_entity? he')
    rw [← hn] at ht'
    exact agreeAt_iff.2 (.inr ⟨e, e', hs.entity?_eq (Database.mem_of_entity? he), ht', hshown⟩)

theorem AgreeAt.modifyEntity {h h' : Entity → Entity} (hs : s.Addressed) (ht : t.Addressed)
    (hname : p.AgreeAt s t name) (hn : ∀ e, s.entity? name = some e → e.SameNames (h e))
    (hn' : ∀ e, t.entity? name = some e → e.SameNames (h' e))
    (hh : ∀ e e', s.entity? name = some e → t.entity? name = some e' → e.shown p = e'.shown p →
      (h e).shown p = (h' e').shown p)
    (hx : p.AgreeAt s t x) : p.AgreeAt (s.modifyEntity name h) (t.modifyEntity name h') x := by
  obtain ⟨hsn, htn⟩ | ⟨e, e', he, he', hshown⟩ := agreeAt_iff.1 hname
  · rwa [Database.modifyEntity_eq_self hsn, Database.modifyEntity_eq_self htn]
  · have hnames : e.name = e'.name := congrArg (·.frame.name) hshown
    rw [AgreeAt, hs.entity?_modifyEntity he (hn e he), ht.entity?_modifyEntity he' (hn' e' he')]
    obtain ⟨hsx, htx⟩ | ⟨a, a', ha, ha', hax⟩ := agreeAt_iff.1 hx
    · rw [hsx, htx]
      rfl
    · have han : a.name = a'.name := congrArg (·.frame.name) hax
      rw [ha, ha', Option.map_some, Option.map_some, Option.map_some, Option.map_some, han, hnames]
      split
      · rw [hh e e' he he' hshown]
      · rw [hax]

/-- What a change made of two databases, where no look-up that agreed has come to disagree. -/
structure Lockstep (p : Platform) (s t s' t' : Database) : Prop where
  left : s.Normalized s'
  right : t.Normalized t'
  agree : ∀ x, p.AgreeAt s t x → p.AgreeAt s' t' x

theorem Lockstep.refl (p : Platform) (s t : Database) : p.Lockstep s t s t :=
  ⟨.refl s, .refl t, fun _ hx => hx⟩

theorem Lockstep.trans (h : p.Lockstep s t s' t') (h' : p.Lockstep s' t' s'' t'') : p.Lockstep s t s'' t'' where
  left := Database.Related.trans (fun _ _ _ hx hy => hx.trans hy) h.left h'.left
  right := Database.Related.trans (fun _ _ _ hx hy => hx.trans hy) h.right h'.right
  agree x hx := h'.agree x (h.agree x hx)

theorem addMissingUnique_eq (target : String × List String) :
    addMissingUnique target = Database.editEntity target.1 (attempt (Entity.ensureUnique target.2)) := rfl

theorem Lockstep.modifyEntity {h h' : Entity → Entity} (hs : s.Addressed) (ht : t.Addressed)
    (hname : p.AgreeAt s t name) (hn : ∀ e, s.entity? name = some e → e.Normalized (h e))
    (hn' : ∀ e, t.entity? name = some e → e.Normalized (h' e))
    (hh : ∀ e e', s.entity? name = some e → t.entity? name = some e' → e.shown p = e'.shown p →
      (h e).shown p = (h' e').shown p) :
    p.Lockstep s t (s.modifyEntity name h) (t.modifyEntity name h') where
  left := Database.Related.of_modifyEntity .refl hn
  right := Database.Related.of_modifyEntity .refl hn'
  agree _ := .modifyEntity hs ht hname (fun e he => (hn e he).sameNames) (fun e he => (hn' e he).sameNames) hh

theorem sameOutcome_addMissingUnique (hs : s.Addressed) (ht : t.Addressed) {target : String × List String}
    (h : p.AgreeAt s t target.1) :
    SameOutcome (p.Lockstep s t) ((addMissingUnique target).result s) ((addMissingUnique target).result t) := by
  rw [addMissingUnique_eq, Database.result_editEntity, Database.result_editEntity]
  obtain ⟨hsn, htn⟩ | ⟨e, e', he, he', hshown⟩ := agreeAt_iff.1 h
  · rw [hsn, htn]
    exact .refl p s t
  · rw [he, he']
    refine (Entity.ensureUnique_congr hshown target.2).map fun u u' hu hu' huu => ?_
    refine .modifyEntity hs ht h (fun a ha => ?_) (fun a ha => ?_) fun _ _ _ _ _ => huu
    · obtain rfl := Option.some.inj (he.symm.trans ha)
      exact Entity.normalized_ensureUnique hu
    · obtain rfl := Option.some.inj (he'.symm.trans ha)
      exact Entity.normalized_ensureUnique hu'

theorem Lockstep.addressed (h : p.Lockstep s t s' t') (hs : s.Addressed) (ht : t.Addressed) :
    s'.Addressed ∧ t'.Addressed :=
  ⟨Database.Related.addressed (fun _ _ hx => hx.sameNames) h.left hs,
    Database.Related.addressed (fun _ _ hx => hx.sameNames) h.right ht⟩

theorem sameOutcome_addMissingUniques (hs : s.Addressed) (ht : t.Addressed)
    {targets : List (String × List String)} (h : ∀ target ∈ targets, p.AgreeAt s t target.1) :
    SameOutcome (p.Lockstep s t) ((addMissingUniques targets).result s)
      ((addMissingUniques targets).result t) := by
  induction targets generalizing s t with
  | nil => exact .refl p s t
  | cons target rest ih =>
      obtain ⟨htarget, hrest⟩ := List.forall_mem_cons.1 h
      rw [addMissingUniques, result_bind, result_bind]
      refine (sameOutcome_addMissingUnique hs ht htarget).bind fun s' t' hl => ?_
      obtain ⟨hs', ht'⟩ := hl.addressed hs ht
      refine (ih hs' ht' fun target hm => hl.agree _ (hrest target hm)).imp fun s'' t'' hl' => ?_
      exact hl.trans hl'

structure Covered (p : Platform) (s t : Database) (name : String) : Prop where
  agree : p.AgreeAt s t name
  targets : ∀ e, s.entity? name = some e → p.TargetsAgree s t e

theorem TargetsAgree.lockstep (h : p.TargetsAgree s t e) (hl : p.Lockstep s t s' t') (hn : e.Normalized e') :
    p.TargetsAgree s' t' e' := by
  intro r hr hskip
  rw [hn.frame] at hr
  exact hl.agree _ (h r hr hskip)

theorem Covered.lockstep (h : p.Covered s t name) (hl : p.Lockstep s t s' t') : p.Covered s' t' name where
  agree := hl.agree _ h.agree
  targets e' he' := by
    obtain ⟨e, he, hn⟩ := hl.left.entity?' he'
    exact (h.targets e he).lockstep hl hn

theorem missingUnique?_congr {r r' : Relation} (hr : r.shown = r'.shown)
    (h : r.skipSql = false → p.AgreeAt s t r.foreignEntity) : missingUnique? s r = missingUnique? t r' := by
  have hforeign : r.foreignEntity = r'.foreignEntity := congrArg (·.unseen.foreignEntity) hr
  have hskip : r.skipSql = r'.skipSql := congrArg (·.unseen.skipSql) hr
  have hfields : r.foreignFields = r'.foreignFields := congrArg (·.foreignFields) hr
  have hreferences : r.hasReferences = r'.hasReferences := by
    have h := congrArg List.isEmpty (show r.localFields = r'.localFields from congrArg (·.localFields) hr)
    simpa [Relation.hasReferences, Relation.localFields] using h
  refine Option.ext fun target => ?_
  simp only [missingUnique?_eq_some_iff, ← hskip, ← hreferences, ← hforeign, ← hfields]
  refine and_congr_right fun hs => and_congr_right fun _ => ?_
  obtain ⟨hsn, htn⟩ | ⟨e, e', he, he', hshown⟩ := agreeAt_iff.1 (h hs)
  · simp only [hsn, htn]
  · have hname : e.name = e'.name := congrArg (·.frame.name) hshown
    simp only [he, he', Option.some.injEq, exists_eq_left', hname, Entity.isUniqueOn_congr hshown,
      Entity.hasField_congr hshown]

theorem at_target_of_missingUnique? (hs : s.Addressed) (ht : t.Addressed) {r : Relation}
    {target : String × List String} (h : r.skipSql = false → p.AgreeAt s t r.foreignEntity)
    (hm : missingUnique? s r = some target) : p.AgreeAt s t target.1 := by
  obtain ⟨hskip, _, foreign, hf, _, _, rfl⟩ := missingUnique?_eq_some_iff.1 hm
  exact (h hskip).at_name hs ht hf

theorem result_normalizeEntity (name : String) (s : Database) :
    (p.normalizeEntity name).result s = match s.entity? name with
      | none => .ok s
      | some e => ((addMissingUniques (e.relations.filterMap (missingUnique? s))).result s).map
          fun n => n.modifyEntity name p.dropUnusedSizes := by
  unfold normalizeEntity result
  dsimp only
  cases s.entity? name with
  | none => rfl
  | some e =>
      dsimp only
      cases addMissingUniques (e.relations.filterMap (missingUnique? s)) s <;> rfl

theorem sameOutcome_normalizeEntity (hs : s.Addressed) (ht : t.Addressed) (h : p.Covered s t name) :
    SameOutcome (p.Lockstep s t) ((p.normalizeEntity name).result s) ((p.normalizeEntity name).result t) := by
  rw [result_normalizeEntity, result_normalizeEntity]
  obtain ⟨hsn, htn⟩ | ⟨e, e', he, he', hshown⟩ := agreeAt_iff.1 h.agree
  · rw [hsn, htn]
    exact .refl p s t
  · rw [he, he']
    dsimp only
    have hr := forall₂_relations hshown (h.targets e he)
    have htargets : e.relations.filterMap (missingUnique? s) = e'.relations.filterMap (missingUnique? t) :=
      filterMap_eq_of_forall₂ hr fun _ _ h => missingUnique?_congr h.2 h.1
    rw [← htargets]
    have hall (target) (hm : target ∈ e.relations.filterMap (missingUnique? s)) : p.AgreeAt s t target.1 := by
      obtain ⟨r, hr, hm⟩ := List.mem_filterMap.1 hm
      exact at_target_of_missingUnique? hs ht (h.targets e he r hr) hm
    refine (sameOutcome_addMissingUniques hs ht hall).map fun n n' _ _ hl => ?_
    obtain ⟨hn, hn'⟩ := hl.addressed hs ht
    exact hl.trans (.modifyEntity hn hn' (hl.agree _ h.agree) (fun a _ => p.normalized_dropUnusedSizes a)
      (fun a _ => p.normalized_dropUnusedSizes a) fun a a' _ _ haa => shown_dropUnusedSizes_congr haa)

theorem sameOutcome_normalizeEntities (hs : s.Addressed) (ht : t.Addressed) {names : List String}
    (h : ∀ name ∈ names, p.Covered s t name) :
    SameOutcome (p.Lockstep s t) ((p.normalizeEntities names).result s)
      ((p.normalizeEntities names).result t) := by
  induction names generalizing s t with
  | nil => exact .refl p s t
  | cons name rest ih =>
      obtain ⟨hname, hrest⟩ := List.forall_mem_cons.1 h
      -- The names that are left were covered before the first step, and no step takes that away.
      rw [normalizeEntities, result_bind, result_bind]
      refine (sameOutcome_normalizeEntity hs ht hname).bind fun s' t' hl => ?_
      obtain ⟨hs', ht'⟩ := hl.addressed hs ht
      refine (ih hs' ht' fun name hm => (hrest name hm).lockstep hl).imp fun s'' t'' hl' => ?_
      exact hl.trans hl'

/-- What a script is made from, in the order in which it creates tables. -/
theorem forall₂_entities {names : List String} (h : ∀ name ∈ names, p.Covered s t name) :
    Forall₂ (fun e e' => e.shown p = e'.shown p ∧ p.TargetsAgree s t e)
      (names.filterMap s.entity?) (names.filterMap t.entity?) := by
  induction names with
  | nil => exact .nil
  | cons name rest ih =>
      obtain ⟨hname, hrest⟩ := List.forall_mem_cons.1 h
      obtain ⟨hsn, htn⟩ | ⟨e, e', he, he', hshown⟩ := agreeAt_iff.1 hname.agree
      · rw [List.filterMap_cons_none hsn, List.filterMap_cons_none htn]
        exact ih hrest
      · rw [List.filterMap_cons_some he, List.filterMap_cons_some he']
        exact .cons ⟨hshown, hname.targets e he⟩ (ih hrest)

theorem createNormalized_congr {names : List String}
    (hv : VendorOptions.forDialect s.vendor p.name = VendorOptions.forDialect t.vendor p.name)
    (h : ∀ name ∈ names, p.Covered s t name) : p.createNormalized s names = p.createNormalized t names := by
  have he := forall₂_entities h
  have htables : (names.filterMap s.entity?).mapM (p.createEntity s) =
      (names.filterMap t.entity?).mapM (p.createEntity t) :=
    mapM_eq_of_forall₂ he fun _ _ h => createEntity_congr hv h.1 h.2
  have hkeys : (names.filterMap s.entity?).map (p.addForeignKeys s) =
      (names.filterMap t.entity?).map (p.addForeignKeys t) :=
    (map_eq_of_forall₂ he fun _ _ h => (addForeignKeys_congr h.1 h.2).symm).symm
  rw [createNormalized, createNormalized, htables, List.flatMap_def, List.flatMap_def, hkeys]

def createInOrder (p : Platform) (db : Database) (names : List String) : Except Fault Script := do
  let normalized ← (p.normalizeEntities names).result db
  p.createNormalized normalized names

theorem createDatabase_eq (p : Platform) (db : Database) :
    p.createDatabase db = p.createInOrder db (db.entitiesForSql.map (·.name)) := rfl

/-- Databases that agree on what the named entities are made from have one script for them. -/
theorem createInOrder_congr {names : List String} (hs : s.Addressed) (ht : t.Addressed)
    (hv : VendorOptions.forDialect s.vendor p.name = VendorOptions.forDialect t.vendor p.name)
    (h : ∀ name ∈ names, p.Covered s t name) : p.createInOrder s names = p.createInOrder t names := by
  refine sameOutcome_eq_iff.1 ((sameOutcome_normalizeEntities hs ht h).bind fun s' t' hl => ?_)
  refine sameOutcome_eq_iff.2 (createNormalized_congr ?_ fun name hm => (h name hm).lockstep hl)
  rw [hl.left.frame, hl.right.frame]
  exact hv

end Platform

end Tablecraft
