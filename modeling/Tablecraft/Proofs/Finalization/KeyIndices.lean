import Tablecraft.Proofs.Finalization.Closure
import Tablecraft.Proofs.Finalization.Sequences

namespace Tablecraft

open List Edit

variable {registry : Registry} {p : Platform} {db db' s t : Database} {e e' : Entity} {r : Relation}
    {name : String}

namespace Text

theorem toList_joinWith (separator : String) (parts : List String) :
    (joinWith separator parts).toList = List.intercalate separator.toList (parts.map String.toList) := by
  cases parts with
  | nil => rfl
  | cons first rest =>
      change (rest.foldl (fun text part => text ++ separator ++ part) first).toList = _
      induction rest generalizing first with
      | nil => simp [List.intercalate]
      | cons second rest ih =>
          rw [List.foldl_cons, ih]
          cases rest <;> simp [List.intercalate]

def Plain (names : List String) : Prop := ∀ name ∈ names, ',' ∉ name.toList

theorem Plain.splitOn_joinWith {names : List String} (h : Plain names) (hn : names ≠ []) :
    (joinWith "," names).toList.splitOn ',' = names.map String.toList := by
  have hc : ∀ part ∈ names.map String.toList, ',' ∉ part := List.forall_mem_map.2 h
  rw [toList_joinWith]
  exact List.splitOn_intercalate ',' hc (by simpa using hn)

theorem Plain.joinWith_inj {names names' : List String} (h : Plain names) (h' : Plain names') (hn : names ≠ [])
    (hn' : names' ≠ []) (hj : joinWith "," names = joinWith "," names') : names = names' := by
  have hs := h.splitOn_joinWith hn
  rw [hj, h'.splitOn_joinWith hn'] at hs
  exact (List.map_injective_iff.2 fun _ _ => String.toList_inj.1) hs.symm

theorem Plain.of_prefix {names names' : List String} (h : Plain names') (hp : names <+: names') : Plain names :=
  fun name hm => h name (hp.subset hm)

end Text

namespace Finalization

open Text

theorem mem_leadingParts {fields : List String} {text : String} :
    text ∈ leadingParts fields ↔ ∃ part, part ≠ [] ∧ part <+: fields ∧ joinWith "," part = text := by
  simp only [leadingParts, List.mem_map, List.mem_range]
  constructor
  · rintro ⟨n, hn, rfl⟩
    refine ⟨fields.take (n + 1), ?_, List.take_prefix _ _, rfl⟩
    rw [← List.length_pos_iff_ne_nil, List.length_take]
    omega
  · rintro ⟨part, hne, hp, rfl⟩
    have hlen := List.length_pos_iff_ne_nil.2 hne
    refine ⟨part.length - 1, by have := hp.length_le; omega, ?_⟩
    rw [Nat.sub_add_cancel hlen, ← List.prefix_iff_eq_take.1 hp]

/-- Where no name has a comma, the joined names tell field lists apart. -/
theorem prefix_of_mem_leadingParts {names fields : List String} (hn : Plain names) (hf : Plain fields)
    (hne : names ≠ []) (h : joinWith "," names ∈ leadingParts fields) : names <+: fields := by
  obtain ⟨part, hpne, hp, hj⟩ := mem_leadingParts.1 h
  rwa [hn.joinWith_inj (hf.of_prefix hp) hne hpne hj.symm]

end Finalization

namespace Entity

theorem isIndexed_iff {names : List String} :
    e.isIndexed names = true ↔ names ≠ [] ∧
      (names <+: e.primaryKeyNames ∨ ∃ i ∈ e.allIndices, names <+: i.memberNames) := by
  simp [isIndexed, Index.coversPrefix]

/-- An index of the entity has the name, but does not start with the fields. -/
def NameTaken (e : Entity) (name : String) (fields : List String) : Prop :=
  ∃ i ∈ e.allIndices, i.name = name ∧ ¬fields <+: i.memberNames

theorem Decorated.subset_allIndices (h : e.Decorated e') : e.allIndices ⊆ e'.allIndices := by
  intro i hi
  rcases List.mem_append.1 hi with hi | hi
  · obtain ⟨j, hj, rfl⟩ := h.indices.exists_of_mem hi
    exact List.mem_append_left _ hj
  · refine List.mem_append_right _ ?_
    rwa [h.frame]

theorem Decorated.primaryKeyNames_eq (h : e.Decorated e') : e'.primaryKeyNames = e.primaryKeyNames := by
  rw [h.frame]
  rfl

theorem Decorated.isIndexed {names : List String} (h : e.Decorated e') (hi : e.isIndexed names = true) :
    e'.isIndexed names = true := by
  obtain ⟨hne, hp⟩ := isIndexed_iff.1 hi
  refine isIndexed_iff.2 ⟨hne, hp.imp ?_ ?_⟩
  · rw [h.primaryKeyNames_eq]
    exact id
  · rintro ⟨i, hi, hp⟩
    exact ⟨i, h.subset_allIndices hi, hp⟩

theorem Decorated.usesForeignKeyEngine_eq (h : e.Decorated e') :
    p.usesForeignKeyEngine e' = p.usesForeignKeyEngine e :=
  p.usesForeignKeyEngine_of_vendor (by rw [h.frame])

theorem NameTaken.of_decorated {fields : List String} (ht : e.NameTaken name fields) (h : e.Decorated e') :
    e'.NameTaken name fields := by
  obtain ⟨i, hi, hn⟩ := ht
  exact ⟨i, h.subset_allIndices hi, hn⟩

end Entity

namespace Finalization

open Text

/-- What is covered was covered from the start or by one of the planned indices, and these are of one kind. -/
structure Additions.Sound (base : List String) (P : Index → Prop) (a : Additions) : Prop where
  covered : ∀ text ∈ a.covered, text ∈ base ∨ ∃ i ∈ a.indices, text ∈ leadingParts i.memberNames
  indices : ∀ i ∈ a.indices, P i

def Additions.planned (name : String) (fields : List String) : Index :=
  { Index.ofNames fields with givenName := some name }

namespace Additions

variable {base : List String} {P : Index → Prop} {a b : Additions} {names fields : List String}

@[simp] theorem memberNames_planned : (planned name fields).memberNames = fields := by
  simp [planned, Index.ofNames, Index.memberNames, Function.comp_def]

theorem Sound.cover (h : a.Sound base P) (hP : P (planned name fields)) : (a.cover name fields).Sound base P where
  covered text ht := by
    rcases List.mem_append.1 ht with ht | ht
    · refine .inr ⟨planned name fields, List.mem_append_right _ (List.mem_singleton_self _), ?_⟩
      rwa [memberNames_planned]
    · refine (h.covered text ht).imp id ?_
      rintro ⟨i, hi, hm⟩
      exact ⟨i, List.mem_append_left _ hi, hm⟩
  indices := List.forall_mem_append.2 ⟨h.indices, List.forall_mem_singleton.2 hP⟩

theorem covers_iff : a.covers fields = true ↔ fields = [] ∨ joinWith "," fields ∈ a.covered := by
  simp [covers]

theorem covers_cover_self (a : Additions) (name : String) (fields : List String) :
    (a.cover name fields).covers fields = true := by
  by_cases hne : fields = []
  · exact covers_iff.2 (.inl hne)
  · exact covers_iff.2 (.inr (List.mem_append_left _ (mem_leadingParts.2 ⟨fields, hne, List.prefix_rfl, rfl⟩)))

theorem covers_cover (h : a.covers names = true) (name : String) (fields : List String) :
    (a.cover name fields).covers names = true :=
  covers_iff.2 ((covers_iff.1 h).imp id (List.mem_append_right _))

structure Covering (base : List String) (P : Index → Prop) (a b : Additions) (lists : List (List String)) :
    Prop where
  sound : b.Sound base P
  before : ∀ names, a.covers names = true → b.covers names = true
  lists : ∀ names ∈ lists, b.covers names = true

theorem Covering.nil (h : a.Sound base P) : Covering base P a a [] := ⟨h, fun _ => id, by simp⟩

theorem Covering.skip {lists : List (List String)} (hf : a.covers fields = true) (h : Covering base P a b lists) :
    Covering base P a b (fields :: lists) :=
  ⟨h.sound, h.before, List.forall_mem_cons.2 ⟨h.before fields hf, h.lists⟩⟩

theorem Covering.cover {lists : List (List String)} (h : Covering base P (a.cover name fields) b lists) :
    Covering base P a b (fields :: lists) :=
  ⟨h.sound, fun names hn => h.before names (covers_cover hn name fields),
    List.forall_mem_cons.2 ⟨h.before fields (covers_cover_self a name fields), h.lists⟩⟩

end Additions

open Additions

variable {base : List String} {P : Index → Prop} {a : Additions} {relations : List Relation}

/-- A name counts the indices that are planned before its own. -/
theorem covering_coverReferenced {count : Nat} (h : a.Sound base P) (hcount : a.indices.length = count)
    (hP : ∀ earlier r later, relations = earlier ++ r :: later →
      P (planned (referencedIndexName p r.name ((coverReferenced p count a earlier).indices.length + 1))
        r.foreignFields)) :
    Covering base P a (coverReferenced p count a relations) (relations.map (·.foreignFields)) := by
  induction relations generalizing count a with
  | nil => exact .nil h
  | cons r rest ih =>
      have hr : P (planned (referencedIndexName p r.name (count + 1)) r.foreignFields) := by
        simpa only [coverReferenced, hcount] using hP [] r rest rfl
      have hrest (earlier : List Relation) (x : Relation) (later : List Relation)
          (hx : rest = earlier ++ x :: later) :=
        hP (r :: earlier) x later (congrArg (List.cons r) hx)
      simp only [coverReferenced] at hrest ⊢
      split
      · rename_i hc
        simp only [if_pos hc] at hrest
        exact (ih h hcount hrest).skip hc
      · rename_i hc
        simp only [if_neg hc] at hrest
        exact (ih (h.cover hr) (by simp [Additions.cover, hcount]) hrest).cover

theorem covering_coverLocal (h : a.Sound base P)
    (hP : ∀ r ∈ relations, P (planned (foreignIndexName r.name) r.localFields)) :
    Covering base P a (coverLocal a relations) (relations.map (·.localFields)) := by
  induction relations generalizing a with
  | nil => exact .nil h
  | cons r rest ih =>
      obtain ⟨hr, hrest⟩ := List.forall_mem_cons.1 hP
      rw [coverLocal]
      split
      · rename_i hc
        exact (ih h hrest).skip hc
      · exact (ih (h.cover hr) hrest).cover

end Finalization

def Database.KeyList (db : Database) (e : Entity) (names : List String) : Prop :=
  (∃ r ∈ e.relations, r.localFields = names) ∨
    ∃ ref ∈ e.referrers, ∃ r, db.relation? ref = some r ∧ r.foreignFields = names

/-- The indices that the pass plans for these referrers, before it comes to the others. -/
def Database.referencedIndices (p : Platform) (db : Database) (e : Entity) (referrers : List RelationRef) :
    List Index :=
  (Finalization.coverReferenced p 0 { covered := Finalization.coveredParts e }
    (referrers.filterMap db.relation?)).indices

/-- A name that the pass gives to an index over these fields: that of a relation of the entity, or that of a
relation from elsewhere with the number of indices planned so far. -/
def Database.PlannedName (p : Platform) (db : Database) (e : Entity) (name : String) (fields : List String) :
    Prop :=
  (∃ r ∈ e.relations, name = Finalization.foreignIndexName r.name ∧ fields = r.localFields) ∨
    ∃ earlier ref later r, e.referrers = earlier ++ ref :: later ∧ db.relation? ref = some r ∧
      fields = r.foreignFields ∧
      name = Finalization.referencedIndexName p r.name ((db.referencedIndices p e earlier).length + 1)

theorem Database.PlannedName.keyList {fields : List String} (h : db.PlannedName p e name fields) :
    db.KeyList e fields := by
  rcases h with ⟨r, hr, -, rfl⟩ | ⟨earlier, ref, later, r, href, hr, rfl, -⟩
  · exact .inl ⟨r, hr, rfl⟩
  · exact .inr ⟨ref, href ▸ List.mem_append_right _ (List.mem_cons_self ..), r, hr, rfl⟩

namespace Finalization

open Text

theorem relationIndices_spec (p : Platform) (db : Database) (e : Entity) :
    (∀ i ∈ relationIndices p db e, db.PlannedName p e i.name i.memberNames) ∧
      ∀ names, db.KeyList e names → names ≠ [] → joinWith "," names ∈ coveredParts e ∨
        ∃ i ∈ relationIndices p db e, joinWith "," names ∈ leadingParts i.memberNames := by
  have hstart : Additions.Sound (coveredParts e) (fun i => db.PlannedName p e i.name i.memberNames)
      { covered := coveredParts e } := ⟨fun text ht => .inl ht, by simp⟩
  have hincoming : ∀ earlier r later, e.referrers.filterMap db.relation? = earlier ++ r :: later →
      (fun i : Index => db.PlannedName p e i.name i.memberNames) (Additions.planned (referencedIndexName p r.name
        ((coverReferenced p 0 { covered := coveredParts e } earlier).indices.length + 1)) r.foreignFields) := by
    intro earlier r later hsplit
    obtain ⟨before, rest, href, rfl, hrest⟩ := List.filterMap_eq_append_iff.1 hsplit
    obtain ⟨lost, ref, after, rfl, hlost, hr, -⟩ := List.filterMap_eq_cons_iff.1 hrest
    have hbefore : (before ++ lost).filterMap db.relation? = before.filterMap db.relation? := by
      rw [List.filterMap_append, List.filterMap_eq_nil_iff.2 hlost, List.append_nil]
    rw [Additions.memberNames_planned, ← hbefore]
    exact .inr ⟨before ++ lost, ref, after, r, by rw [href, List.append_assoc], hr, rfl, rfl⟩
  have hown : ∀ r ∈ e.relations,
    db.PlannedName p e (Additions.planned (foreignIndexName r.name) r.localFields).name
      (Additions.planned (foreignIndexName r.name) r.localFields).memberNames :=
    fun r hr => by simpa using .inl ⟨r, hr, rfl, rfl⟩
  have hreferenced := covering_coverReferenced hstart rfl hincoming
  have hlocal := covering_coverLocal hreferenced.sound hown
  refine ⟨hlocal.sound.indices, fun names hnames hne => ?_⟩
  have hcovers : (coverLocal
    (coverReferenced p 0 { covered := coveredParts e } (e.referrers.filterMap db.relation?))
      e.relations).covers names = true := by
    rcases hnames with ⟨r, hr, rfl⟩ | ⟨ref, href, r, hr, rfl⟩
    · exact hlocal.lists _ (List.mem_map_of_mem hr)
    · exact hlocal.before _ (hreferenced.lists _ (List.mem_map_of_mem (List.mem_filterMap.2 ⟨ref, href, hr⟩)))
  exact hlocal.sound.covered _ ((Additions.covers_iff.1 hcovers).resolve_left hne)

theorem addNewIndices_eq_ok {planned : List Index} (h : addNewIndices planned e = .ok () e') :
    e.Decorated e' ∧ ∀ i ∈ planned, ∃ j ∈ e'.allIndices, j.memberNames = i.memberNames ∨ j.name = i.name := by
  induction planned generalizing e with
  | nil =>
      cases h
      exact ⟨.refl _, by simp⟩
  | cons i rest ih =>
      obtain ⟨_, x, hx, h⟩ := bind_eq_ok_iff.1 h
      have hx := attempt_eq_ok_iff.1 hx
      obtain ⟨hrest, hplanned⟩ := ih h
      split at hx
      · rename_i hi
        obtain rfl := Except.ok.inj hx
        obtain ⟨j, hj, hn⟩ := List.any_eq_true.1 hi
        exact ⟨hrest, List.forall_mem_cons.2
          ⟨⟨j, hrest.subset_allIndices hj, .inr (beq_iff_eq.1 hn)⟩, hplanned⟩⟩
      · obtain ⟨j, hj, rfl⟩ := Entity.addIndex_eq_ok hx
        obtain ⟨rfl, -⟩ := Entity.admitIndex_eq_ok hj
        refine ⟨(Entity.adorns_decorated.addIndex (.refl e) hx).trans hrest,
          List.forall_mem_cons.2 ⟨?_, hplanned⟩⟩
        refine ⟨_, hrest.subset_allIndices
          (List.mem_append_left _ (List.mem_append_right _ (List.mem_singleton_self _))),
          .inl rfl⟩

end Finalization

/-- An index is there for the list, or the name is taken that the pass over the database gave to an index
starting with the list; the entity was `old` before the pass. -/
def Database.Secures (p : Platform) (db : Database) (old e : Entity) (names : List String) : Prop :=
  e.isIndexed names = true ∨
    ∃ name fields, db.PlannedName p old name fields ∧ names <+: fields ∧ e.NameTaken name fields

/-- The lists that the pass compares as joined names have no comma in them. -/
structure Database.PlainAt (db : Database) (e : Entity) : Prop where
  keyLists : ∀ names, db.KeyList e names → Text.Plain names
  primaryKey : Text.Plain e.primaryKeyNames
  indices : ∀ i ∈ e.allIndices, Text.Plain i.memberNames

def Database.SecuredAt (p : Platform) (db : Database) (name : String) (db' : Database) : Prop :=
  ∀ old e, db.entity? name = some old → db'.entity? name = some e → p.usesForeignKeyEngine e = false →
    db'.PlainAt e →
    ∀ names, db'.KeyList e names → names ≠ [] → db.Secures p old e names

namespace Database

theorem Decorated.relation?_eq (h : db.Decorated db') (ref : RelationRef) :
    db'.relation? ref = db.relation? ref := by
  unfold relation?
  cases he : db.entity? ref.entity with
  | some e =>
      obtain ⟨e', he', hx⟩ := Related.entity? (fun _ _ h => h.sameNames) h he
      rw [he', Option.bind_some, Option.bind_some, Entity.relation?, hx.relations_eq]
      rfl
  | none =>
      cases he' : db'.entity? ref.entity with
      | none => rfl
      | some e' =>
          obtain ⟨e, he₀, -⟩ := Related.entity?' (fun _ _ h => h.sameNames) h he'
          simp [he] at he₀

theorem keyList_of_decorated {names : List String} (h : db.Decorated db') (he : e.Decorated e') :
    db'.KeyList e' names ↔ db.KeyList e names := by
  simp only [KeyList, he.relations_eq, he.referrers_eq, h.relation?_eq]

theorem plannedName_of_decorated {fields : List String} (h : db.Decorated db') :
    db'.PlannedName p e name fields ↔ db.PlannedName p e name fields := by
  simp only [PlannedName, referencedIndices, funext h.relation?_eq]

theorem PlainAt.of_decorated (hp : db'.PlainAt e') (h : db.Decorated db') (he : e.Decorated e') :
    db.PlainAt e where
  keyLists names hn := hp.keyLists names ((keyList_of_decorated h he).2 hn)
  primaryKey := he.primaryKeyNames_eq ▸ hp.primaryKey
  indices i hi := hp.indices i (he.subset_allIndices hi)

theorem Secures.of_decorated {old : Entity} {names : List String} (hs : db.Secures p old e names)
    (he : e.Decorated e') :
    db.Secures p old e' names :=
  hs.imp he.isIndexed fun ⟨name, fields, hplan, hp, ht⟩ => ⟨name, fields, hplan, hp, ht.of_decorated he⟩

theorem SecuredAt.of_decorated (hs : db.SecuredAt p name s) (h : s.Decorated t) : db.SecuredAt p name t := by
  intro old e' hold he' hu hp names hn hne
  obtain ⟨e, he, hx⟩ := Related.entity?' (fun _ _ h => h.sameNames) h he'
  have hengine : p.usesForeignKeyEngine e = false := hx.usesForeignKeyEngine_eq ▸ hu
  exact (hs old e hold he hengine (hp.of_decorated h hx) names
    ((keyList_of_decorated h hx).1 hn) hne).of_decorated hx

end Database

namespace Finalization

open Text

theorem secures_of_planned {names : List String} {i j : Index} (hplan : db.PlannedName p e i.name i.memberNames)
    (hp : names <+: i.memberNames) (hne : names ≠ []) (hj : j ∈ e'.allIndices)
    (hij : j.memberNames = i.memberNames ∨ j.name = i.name) : db.Secures p e e' names := by
  by_cases hstart : i.memberNames <+: j.memberNames
  · exact .inl (Entity.isIndexed_iff.2 ⟨hne, .inr ⟨j, hj, hp.trans hstart⟩⟩)
  · have hname : j.name = i.name := hij.resolve_left fun hm => hstart (hm ▸ List.prefix_rfl)
    exact .inr ⟨i.name, i.memberNames, hplan, hp, j, hj, hname, hstart⟩

theorem isIndexed_of_mem_coveredParts {names : List String} (hplain : db.PlainAt e) (hn : Plain names)
    (hne : names ≠ []) (h : joinWith "," names ∈ coveredParts e) : e.isIndexed names = true := by
  refine Entity.isIndexed_iff.2 ⟨hne, (List.mem_append.1 h).imp ?_ ?_⟩
  · exact prefix_of_mem_leadingParts hn hplain.primaryKey hne
  · intro hi
    obtain ⟨i, hi, hm⟩ := List.mem_flatMap.1 hi
    exact ⟨i, hi, prefix_of_mem_leadingParts hn (hplain.indices i hi) hne hm⟩

theorem decorated_indexRelations (h : indexRelations p name s = .ok () t) : s.Decorated t :=
  (Entity.adorns_decorated.keeps_indexRelations p name).of_ok h (Database.Related.refl Entity.Decorated.refl s)

theorem indexRelations_eq_ok (h : indexRelations p name s = .ok () t) :
    (∀ e, s.entity? name = some e → p.usesForeignKeyEngine e = true) ∧ t = s ∨
      ∃ e e', s.entity? name = some e ∧ p.usesForeignKeyEngine e = false ∧
        addNewIndices (relationIndices p s e) e = .ok () e' ∧ t = s.modifyEntity name fun _ => e' := by
  unfold indexRelations at h
  cases he : s.entity? name with
  | none =>
      simp only [he, EStateM.Result.ok.injEq, true_and] at h
      exact .inl ⟨by simp, h.symm⟩
  | some e =>
      simp only [he] at h
      split at h
      · rename_i hengine
        cases h
        exact .inl ⟨fun e' he' => Option.some.inj he' ▸ hengine, rfl⟩
      · rename_i hengine
        refine .inr ⟨e, ?_⟩
        cases hadd : addNewIndices (relationIndices p s e) e with
        | error fault e' =>
            rw [Database.editEntity_of_error he hadd] at h
            cases h
        | ok _ e' =>
            rw [Database.editEntity_of_ok he hadd] at h
            cases h
            exact ⟨e', rfl, by simpa using hengine, rfl, rfl⟩

theorem entity?_indexRelations {other : String} (ha : s.Addressed) (hname : name ∈ s.entityNames)
    (hother : other ∈ s.entityNames) (hne : other ≠ name) (h : indexRelations p name s = .ok () t) :
    t.entity? other = s.entity? other := by
  rcases indexRelations_eq_ok h with ⟨-, rfl⟩ | ⟨e, e', he, -, hadd, rfl⟩
  · rfl
  · obtain ⟨x, hx, rfl⟩ := List.mem_map.1 hname
    obtain ⟨y, hy, rfl⟩ := List.mem_map.1 hother
    obtain rfl := Option.some.inj ((ha.entity?_eq hx).symm.trans he)
    rw [ha.entity?_modifyEntity he (addNewIndices_eq_ok hadd).1.sameNames, ha.entity?_eq hy,
      Option.map_some, if_neg hne]

theorem securedAt_of_indexRelations (hs : db.Decorated s) (hname : s.entity? name = db.entity? name)
    (h : indexRelations p name s = .ok () t) : db.SecuredAt p name t := by
  have hx := decorated_indexRelations h
  intro e e' he he' hu hp names hn hne
  rw [← hname] at he
  obtain ⟨x, hfound, hee⟩ := Database.Related.entity?' (fun _ _ h => h.sameNames) hx he'
  obtain rfl := Option.some.inj (hfound.symm.trans he)
  have hengine : p.usesForeignKeyEngine x = false := hee.usesForeignKeyEngine_eq ▸ hu
  have hy : addNewIndices (relationIndices p s x) x = .ok () e' := by
    rcases indexRelations_eq_ok h with ⟨hidle, -⟩ | ⟨y, z, hfound, -, hadd, rfl⟩
    · simp [hidle x he] at hengine
    · obtain rfl := Option.some.inj (hfound.symm.trans he)
      rw [Database.entity?_modifyEntity_const he (addNewIndices_eq_ok hadd).1.sameNames] at he'
      rwa [← Option.some.inj he']
  obtain ⟨-, hplanned⟩ := addNewIndices_eq_ok hy
  obtain ⟨hplan, hcovered⟩ := relationIndices_spec p s x
  have hplain := hp.of_decorated hx hee
  have hkey := (Database.keyList_of_decorated hx hee).1 hn
  rcases hcovered names hkey hne with hbase | ⟨i, hi, hm⟩
  · exact .inl (hee.isIndexed (isIndexed_of_mem_coveredParts hplain (hp.keyLists names hn) hne hbase))
  · obtain ⟨j, hj, hij⟩ := hplanned i hi
    have hfields := hplain.keyLists _ (hplan i hi).keyList
    exact secures_of_planned ((Database.plannedName_of_decorated hs).1 (hplan i hi))
      (prefix_of_mem_leadingParts (hp.keyLists names hn) hfields hne hm) hne hj hij

/-- What the pass still comes to is as it was before the pass, so each plan is that of the start. -/
theorem securedAt_of_indexAllRelations {names : List String} (ha : s.Addressed) (hd : names.Nodup)
    (hnames : names ⊆ s.entityNames) (hs : db.Decorated s)
    (hsame : ∀ name ∈ names, s.entity? name = db.entity? name)
    (h : indexAllRelations p names s = .ok () t) : ∀ name ∈ names, db.SecuredAt p name t := by
  induction names generalizing s with
  | nil => simp
  | cons name rest ih =>
      obtain ⟨_, u, hu, h⟩ := bind_eq_ok_iff.1 h
      obtain ⟨hfresh, hd⟩ := List.nodup_cons.1 hd
      obtain ⟨hname, hrest⟩ := List.cons_subset.1 hnames
      obtain ⟨hsame, hsames⟩ := List.forall_mem_cons.1 hsame
      have hsu := decorated_indexRelations hu
      have hsamenames := hsu.entities.imp fun _ _ hx => hx.sameNames
      have hut := (Entity.adorns_decorated.keeps_indexAllRelations p rest).of_ok h
        (Database.Related.refl Entity.Decorated.refl u)
      refine List.forall_mem_cons.2 ⟨(securedAt_of_indexRelations hs hsame hu).of_decorated hut, ?_⟩
      refine ih (ha.congr hsamenames) hd (Database.entityNames_congr hsamenames ▸ hrest)
        (hs.trans (fun _ _ _ hx hy => hx.trans hy) hsu) ?_ h
      intro other ho
      rw [entity?_indexRelations ha hname (hrest ho) (fun heq => hfresh (heq ▸ ho)) hu, hsames other ho]

end Finalization

namespace Database

theorem addressed_of_sameNames (h : db'.Addressed) (hn : Forall₂ Entity.SameNames db.entities db'.entities) :
    db.Addressed :=
  h.congr (hn.flip.imp fun _ _ hx => ⟨hx.1.symm, hx.2.symm⟩)

theorem Stages.sameNames {a u : Database} (h : Stages registry p db a u t db') :
    Forall₂ Entity.SameNames a.entities u.entities ∧ Forall₂ Entity.SameNames u.entities t.entities ∧
      Forall₂ Entity.SameNames t.entities db'.entities :=
  ⟨h.extended.sameNames, h.informed.entities.imp fun _ _ hx => hx.sameNames,
    h.decorated.entities.imp fun _ _ hx => hx.sameNames⟩

structure Binds (db : Database) (e : Entity) (r : Relation) : Prop where
  references : r.references ≠ []
  localFields : r.localFields ⊆ e.fieldNames
  foreign : ∃ foreign, db.entity? r.foreignEntity = some foreign ∧ r.foreignFields ⊆ foreign.fieldNames ∧
    ⟨e.name, r.name⟩ ∈ foreign.referrers

theorem Stages.binds {a u : Database} (h : Stages registry p db a u t db') (ha : a.Addressed) :
    ∀ e ∈ db'.entities, ∀ r ∈ e.relations, db'.Binds e r := by
  intro e he r hr
  have hu := h.extended.addressed ha
  have hnames : u.entityNames = a.entityNames := entityNames_congr h.extended.sameNames
  obtain ⟨x, hx, hxe⟩ := FirstMatch.exists_of_mem' h.decorated.entities he
  obtain ⟨y, hy, hyx⟩ := FirstMatch.exists_of_mem' h.informed.entities hx
  have hrx : r ∈ x.relations := hxe.relations_eq ▸ hr
  have hsettled := Finalization.settled_of_settleAll ha h.settled y hy r (hyx.relations_eq ▸ hrx)
  obtain ⟨k, hk, f, hf, href, hfields⟩ :=
    Finalization.knowsAt_of_registerAllRelations hu (hnames ▸ h.registered) x hx r hrx
  obtain ⟨f', hf', hff⟩ :=
    Related.entity? (fun _ _ h => h.sameNames) h.decorated (entity?_eq_some_iff.2 ⟨k, hk, hf⟩)
  have hfieldNames {x y : Entity} (hxy : x.Decorated y) : y.fieldNames = x.fieldNames := by
    rw [Entity.fieldNames, hxy.fields_eq, Entity.fieldNames]
  refine ⟨hsettled.references, fun name hn => ?_, f', hf', fun name hn => ?_, ?_⟩
  · rw [hfieldNames hxe, hyx.fieldNames_eq, ← Entity.hasField_iff]
    exact hsettled.localFields name hn
  · obtain ⟨g, hg, -⟩ := hfields name hn
    rw [hfieldNames hff, ← Entity.hasField_iff]
    exact Entity.hasField_of_field? hg
  · rw [hff.referrers_eq, hxe.sameNames.1]
    exact href

def Plain (db : Database) : Prop :=
  ∀ e ∈ db.entities, Text.Plain e.fieldNames ∧ ∀ i ∈ e.allIndices, Text.Plain i.memberNames

instance (db : Database) : Decidable db.Plain :=
  inferInstanceAs (Decidable (∀ e ∈ db.entities, (∀ name ∈ e.fieldNames, ',' ∉ name.toList) ∧
    ∀ i ∈ e.allIndices, ∀ name ∈ i.memberNames, ',' ∉ name.toList))

instance (db : Database) : Decidable db.Addressed :=
  inferInstanceAs (Decidable (db.entities.Pairwise fun earlier later => earlier.isNamed later.name = false))

theorem Plain.plainAt (hc : db.Plain) (hb : ∀ e ∈ db.entities, ∀ r ∈ e.relations, db.Binds e r)
    (he : e ∈ db.entities) :
    db.PlainAt e where
  keyLists := by
    rintro _ (⟨r, hr, rfl⟩ | ⟨ref, -, r, hr, rfl⟩) name hn
    · exact (hc e he).1 name ((hb e he r hr).localFields hn)
    · obtain ⟨source, hs, hr⟩ := Option.bind_eq_some_iff.1 hr
      obtain ⟨foreign, hf, hfields, -⟩ := (hb source (mem_of_entity? hs) r (List.mem_of_find?_eq_some hr)).foreign
      exact (hc foreign (mem_of_entity? hf)).1 name (hfields hn)
  primaryKey name hn := by
    obtain ⟨f, hf, rfl⟩ := List.mem_map.1 hn
    exact (hc e he).1 _ (List.mem_map_of_mem (List.mem_of_mem_filter hf))
  indices := (hc e he).2

end Database

/-- The fields of a relation from or to an entity whose engine has no foreign keys are indexed in that entity,
or the name that the pass over it planned for their index was taken. -/
theorem secures_of_finalize (hp : p.dialect = .mysql) (h : (Database.finalize registry p).result db = .ok db')
    (ha : db'.Addressed) (hc : db'.Plain) (he : e ∈ db'.entities) (hu : p.usesForeignKeyEngine e = false) :
    ∃ a u t old, Database.Stages registry p db a u t db' ∧ t.entity? e.name = some old ∧
      (∀ r ∈ e.relations, t.Secures p old e r.localFields) ∧
      ∀ source ∈ db'.entities, ∀ r ∈ source.relations, db'.entity? r.foreignEntity = some e →
        db'.relation? ⟨source.name, r.name⟩ = some r → t.Secures p old e r.foreignFields := by
  obtain ⟨a, u, t, hs⟩ := Database.exists_stages h
  obtain ⟨hau, hut, htd⟩ := hs.sameNames
  have hta := Database.addressed_of_sameNames ha htd
  have hb := hs.binds (Database.addressed_of_sameNames (Database.addressed_of_sameNames hta hut) hau)
  have hnames : a.entityNames = t.entityNames := by
    rw [Database.entityNames_congr hut, Database.entityNames_congr hau]
  have hdialect : Finalization.indexAllRelations p t.entityNames t = .ok () db' := by
    simpa only [Finalization.dialectPass, hp, hnames] using hs.dialect
  obtain ⟨old, hold, -⟩ := Database.Related.entity?' (fun _ _ h => h.sameNames) hs.decorated (ha.entity?_eq he)
  have hmem : e.name ∈ t.entityNames := Database.entityNames_congr htd ▸ List.mem_map_of_mem he
  have hsecured : ∀ names, db'.KeyList e names → names ≠ [] → t.Secures p old e names :=
    Finalization.securedAt_of_indexAllRelations hta hta.nodup_entityNames (List.Subset.refl _)
      (.refl Entity.Decorated.refl t)
      (fun _ _ => rfl) hdialect e.name hmem old e hold (ha.entity?_eq he) hu (hc.plainAt hb he)
  have hne {source : Entity} {r : Relation} (h : db'.Binds source r) : r.localFields ≠ [] ∧
      r.foreignFields ≠ [] := by
    simpa [Relation.localFields, Relation.foreignFields] using h.references
  refine ⟨a, u, t, old, hs, hold, fun r hr => hsecured _ (.inl ⟨r, hr, rfl⟩) (hne (hb e he r hr)).1, ?_⟩
  intro source hsource r hr hf hfound
  obtain ⟨foreign, hf', -, href⟩ := (hb source hsource r hr).foreign
  obtain rfl := Option.some.inj (hf'.symm.trans hf)
  exact hsecured _ (.inr ⟨_, href, r, hfound, rfl⟩) (hne (hb source hsource r hr)).2

def unboundPlatform : Platform := { dialect := .mysql, settings := { tableType := "MyISAM" } }

def indexedDocument (fields : List String) (indices : List Document.Index) (relations : List Document.Relation) :
    SchemaDocument :=
  let number (name : String) : Document.Field := { name, fieldType := some "INTEGER" }
  let id : Document.Field := { number "id" with primaryKey := true }
  { databases := [
      { name := "library"
        entities := [
          { name := "author", fields := [id, number "code"] },
          { name := "book", fields := id :: fields.map number, indices, relations }] }] }

def boundDocument : SchemaDocument :=
  indexedDocument ["writer", "code"] []
    [{ name := some "book_fk_author", foreignEntity := "author", references := [("writer", "id")] },
      { name := some "book_fk_code", foreignEntity := "author",
        references := [("writer", "id"), ("code", "code")] }]

theorem secures_of_finalize_author : ∃ db', boundDocument.finalized? unboundPlatform = some db' ∧
    ∃ e ∈ db'.entities, e.name = "author" ∧ e.indices.map (·.memberNames) = [["id", "code"]] ∧
      ∃ (t : Database) (old : Entity), t.entity? "author" = some old ∧
        ∀ source ∈ db'.entities, ∀ r ∈ source.relations, db'.entity? r.foreignEntity = some e →
          db'.relation? ⟨source.name, r.name⟩ = some r → t.Secures unboundPlatform old e r.foreignFields := by
  have hf : (boundDocument.finalized? unboundPlatform).any (fun db => decide (db.Addressed ∧ db.Plain ∧
      ∃ e ∈ db.entities, e.name = "author" ∧ e.indices.map (·.memberNames) = [["id", "code"]] ∧
        unboundPlatform.usesForeignKeyEngine e = false)) = true := by
    decide +kernel
  obtain ⟨db', hf, hd⟩ := (Option.any_eq_true _ _).1 hf
  obtain ⟨ha, hc, e, he, hn, hi, hu⟩ := of_decide_eq_true hd
  obtain ⟨db, -, h⟩ := SchemaDocument.loadedFrom_of_finalized? hf
  obtain ⟨_, _, t, old, -, hold, -, hforeign⟩ := secures_of_finalize rfl h ha hc he hu
  exact ⟨db', hf, e, he, hn, hi, t, old, hn ▸ hold, hforeign⟩

def Database.Unindexed (db : Database) (e : Entity) : Prop :=
  (∃ r ∈ e.relations, e.isIndexed r.localFields = false) ∨
    ∃ source ∈ db.entities, ∃ r ∈ source.relations, db.entity? r.foreignEntity = some e ∧
      e.isIndexed r.foreignFields = false

instance (db : Database) (e : Entity) : Decidable (db.Unindexed e) :=
  inferInstanceAs (Decidable ((∃ r ∈ e.relations, e.isIndexed r.localFields = false) ∨
    ∃ source ∈ db.entities, ∃ r ∈ source.relations,
      db.entity? r.foreignEntity = some e ∧ e.isIndexed r.foreignFields = false))

def SchemaDocument.LeavesUnindexed (doc : SchemaDocument) (P : Database → Prop) : Prop :=
  ∃ db', doc.finalized? unboundPlatform = some db' ∧ P db' ∧
    ∃ e ∈ db'.entities, unboundPlatform.usesForeignKeyEngine e = false ∧ db'.Unindexed e

theorem SchemaDocument.leavesUnindexed_of_decide {doc : SchemaDocument} {P : Database → Prop} [DecidablePred P]
    (h : (doc.finalized? unboundPlatform).any (fun db => decide (P db ∧
      ∃ e ∈ db.entities, unboundPlatform.usesForeignKeyEngine e = false ∧ db.Unindexed e)) = true) :
    doc.LeavesUnindexed P := by
  obtain ⟨db', hf, hd⟩ := (Option.any_eq_true _ _).1 h
  obtain ⟨hP, he⟩ := of_decide_eq_true hd
  exact ⟨db', hf, hP, he⟩

/-- The relation `author` asks for an index `fi_author`, which is there over the title. -/
def takenNameDocument : SchemaDocument :=
  indexedDocument ["title", "writer"] [{ name := some "fi_author", fields := [{ name := "title" }] }]
    [{ name := some "author", foreignEntity := "author", references := [("writer", "id")] }]

/-- An index over one field whose name has a comma passes for one over two fields. -/
def commaDocument : SchemaDocument :=
  indexedDocument ["writer", "code", "writer,code"] [{ fields := [{ name := "writer,code" }] }]
    [{ foreignEntity := "author", references := [("writer", "id"), ("code", "code")] }]

/-- The author has one referrer for both relations, and it leads to the first. -/
def sharedNameDocument : SchemaDocument :=
  indexedDocument ["writer", "code"] []
    [{ name := some "maker", foreignEntity := "author", references := [("writer", "id")] },
      { name := some "maker", foreignEntity := "author", references := [("code", "code")] }]

/-- A book that goes by the name of the author, who stands before it, and is never visited. -/
def disguisedLibrary? : Option Database :=
  ((indexedDocument ["writer"] [] [{ foreignEntity := "author", references := [("writer", "id")] }]).build
    .builtins).toOption.bind fun schema =>
      schema.databases.head?.map (·.modifyEntity "book" (Entity.setName "author"))

theorem exists_unindexed_relation :
    takenNameDocument.LeavesUnindexed (fun db => db.Addressed ∧ db.Plain ∧
      ∀ e ∈ db.entities, (e.relations.map (·.name)).Nodup) ∧
    commaDocument.LeavesUnindexed (fun db => db.Addressed ∧ ∀ e ∈ db.entities, (e.relations.map (·.name)).Nodup) ∧
    sharedNameDocument.LeavesUnindexed (fun db => db.Addressed ∧ db.Plain) ∧
    ∃ db db', disguisedLibrary? = some db ∧ (Database.finalize .builtins unboundPlatform).result db = .ok db' ∧
      db'.Plain ∧ ∃ e ∈ db'.entities, unboundPlatform.usesForeignKeyEngine e = false ∧ db'.Unindexed e := by
  refine ⟨SchemaDocument.leavesUnindexed_of_decide (by decide +kernel),
    SchemaDocument.leavesUnindexed_of_decide (by decide +kernel),
    SchemaDocument.leavesUnindexed_of_decide (by decide +kernel), ?_⟩
  have hd : disguisedLibrary?.any
      (fun db => ((Database.finalize .builtins unboundPlatform).result db).toOption.any fun db' =>
      decide (db'.Plain ∧ ∃ e ∈ db'.entities, unboundPlatform.usesForeignKeyEngine e = false ∧
          db'.Unindexed e)) = true := by
    decide +kernel
  obtain ⟨db, hdb, hd⟩ := (Option.any_eq_true _ _).1 hd
  obtain ⟨db', hdb', hd⟩ := (Option.any_eq_true _ _).1 hd
  exact ⟨db, db', hdb, except_toOption_eq_some_iff.1 hdb', of_decide_eq_true hd⟩

end Tablecraft
