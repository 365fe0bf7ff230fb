import Mathlib.Data.List.Perm.Subperm
import Tablecraft.Proofs.Ddl.TableOrder
import Tablecraft.Proofs.Finalization.Pointers

namespace Tablecraft

open List Edit

variable {registry : Registry} {p q : Platform} {db db' s t u n : Database} {e e' e'' : Entity} {r : Relation}
  {names members : List String} {name : String}

namespace Entity

theorem sameMembers_self (names : List String) : sameMembers names names = true := by
  simp [sameMembers]

/-- Lists of one length and the same members are permutations of each other where the first has no
name twice. -/
theorem perm_of_sameMembers (hd : names.Nodup) (h : sameMembers names members = true) : members.Perm names := by
  obtain ⟨hl, hm⟩ := Bool.and_eq_true_iff.1 h
  have hsub : names ⊆ members := fun x hx => by simpa using List.all_eq_true.1 hm x hx
  exact ((hd.subperm hsub).perm_of_length_le (Nat.le_of_eq (beq_iff_eq.1 hl))).symm

def HasKey (e : Entity) (names : List String) : Prop :=
  e.primaryKeyNames.Perm names ∨ ∃ i ∈ e.uniques, i.memberNames.Perm names

theorem hasKey_of_isUniqueOn (hd : names.Nodup) (h : e.isUniqueOn names = true) : e.HasKey names := by
  rcases Bool.or_eq_true_iff.1 h with h | h
  · exact .inl (perm_of_sameMembers hd h)
  · obtain ⟨i, hi, h⟩ := List.any_eq_true.1 h
    exact .inr ⟨i, hi, perm_of_sameMembers hd h⟩

structure KeepsKeys (e e' : Entity) : Prop where
  normalized : e.Normalized e'
  unique : ∀ names, e.isUniqueOn names = true → e'.isUniqueOn names = true

theorem KeepsKeys.refl (e : Entity) : e.KeepsKeys e := ⟨.refl e, fun _ h => h⟩

theorem KeepsKeys.trans (h : e.KeepsKeys e') (h' : e'.KeepsKeys e'') : e.KeepsKeys e'' :=
  ⟨h.normalized.trans h'.normalized, fun names hu => h'.unique names (h.unique names hu)⟩

theorem keepsKeys_addUnique (h : e.addUnique (.uniqueOfNames names) = .ok e') :
    e.KeepsKeys e' ∧ e'.isUniqueOn names = true := by
  obtain ⟨i, hi, rfl⟩ := addUnique_eq_ok h
  have hmembers : i.memberNames = names := by
    rw [(admitIndex_eq_ok hi).1]
    simp [Index.uniqueOfNames, Index.ofNames, Index.memberNames, Function.comp_def]
  refine ⟨⟨{ Entity.Normalized.refl e with frame := rfl }, fun others hu => ?_⟩, ?_⟩
  · rcases Bool.or_eq_true_iff.1 hu with hu | hu
    · exact Bool.or_eq_true_iff.2 (.inl hu)
    · exact Bool.or_eq_true_iff.2 (.inr (by rw [List.any_append, hu, Bool.true_or]))
  · refine Bool.or_eq_true_iff.2 (.inr (List.any_eq_true.2 ⟨i, by simp, ?_⟩))
    rw [hmembers]
    exact sameMembers_self names

theorem KeepsKeys.addUnique (h : e.KeepsKeys e') (ha : e'.addUnique (.uniqueOfNames names) = .ok e'') :
    e.KeepsKeys e'' :=
  h.trans (keepsKeys_addUnique ha).1

theorem KeepsKeys.dropUnusedSizes (h : e.KeepsKeys e') (p : Platform) : e.KeepsKeys (p.dropUnusedSizes e') :=
  h.trans ⟨p.normalized_dropUnusedSizes e', fun names hu => by rwa [isUniqueOn_dropUnusedSizes]⟩

end Entity

namespace Platform

theorem missingUnique?_of_keepsKeys (h : missingUnique? s r = none) (hk : s.Related Entity.KeepsKeys t) :
    missingUnique? t r = none := by
  by_contra hm
  obtain ⟨target, hm⟩ := Option.ne_none_iff_exists'.1 hm
  obtain ⟨hskip, href, foreign', hf', hnot, hall, rfl⟩ := missingUnique?_eq_some_iff.1 hm
  obtain ⟨foreign, hf, hff⟩ := Database.Related.entity?' (fun _ _ hx => hx.normalized.sameNames) hk hf'
  have hwas : foreign.isUniqueOn r.foreignFields = false :=
    Bool.eq_false_iff.2 fun hu => by simp [hff.unique _ hu] at hnot
  rw [hff.normalized.hasField_eq] at hall
  rw [missingUnique?_eq_some_iff.2 ⟨hskip, href, foreign, hf, hwas, hall, rfl⟩] at h
  cases h

theorem uniqueTargets_of_keepsKeys (h : s.UniqueTargets names) (hk : s.Related Entity.KeepsKeys t) :
    t.UniqueTargets names := by
  intro name hm e' he' r hr
  obtain ⟨e, he, hee⟩ := Database.Related.entity?' (fun _ _ hx => hx.normalized.sameNames) hk he'
  rw [hee.normalized.frame] at hr
  exact missingUnique?_of_keepsKeys (h name hm e he r hr) hk

theorem keepsKeys_of_addMissingUniques {targets : List (String × List String)}
    (h : (addMissingUniques targets).result s = .ok t) : s.Related Entity.KeepsKeys t :=
  (keeps_addMissingUniques (fun _ _ _ _ hx ha => hx.addUnique ha) targets).of_ok
    (result_eq_ok_iff.1 h) (.refl Entity.KeepsKeys.refl s)

theorem isUniqueOn_of_addMissingUnique (hs : s.Addressed) {target : String × List String}
    (h : (addMissingUnique target).result s = .ok t) :
    ∀ e ∈ t.entity? target.1, e.isUniqueOn target.2 = true := by
  rw [addMissingUnique, Database.result_editEntity] at h
  cases he : s.entity? target.1 with
  | none =>
      rw [he] at h
      obtain rfl := Except.ok.inj h
      simp [he]
  | some e =>
      rw [he] at h
      obtain ⟨e', he', rfl⟩ := except_map_eq_ok_iff.1 h
      obtain ⟨hk, hu⟩ : e.KeepsKeys e' ∧ e'.isUniqueOn target.2 = true := by
        split at he'
        · obtain rfl := Except.ok.inj he'
          exact ⟨.refl e, ‹_›⟩
        · exact Entity.keepsKeys_addUnique he'
      rw [hs.entity?_modifyEntity he hk.normalized.sameNames, he]
      simpa using hu

theorem isUniqueOn_of_addMissingUniques (hs : s.Addressed) {targets : List (String × List String)}
    (h : (addMissingUniques targets).result s = .ok t) :
    ∀ target ∈ targets, ∀ e ∈ t.entity? target.1, e.isUniqueOn target.2 = true := by
  induction targets generalizing s with
  | nil => simp
  | cons target rest ih =>
      rw [addMissingUniques, result_bind] at h
      obtain ⟨u, hu, h⟩ := except_bind_eq_ok_iff.1 h
      have hsu : s.Related Entity.KeepsKeys u := by
        refine (keeps_addMissingUnique (fun _ _ _ _ hx ha => hx.addUnique ha) target).of_ok
          (result_eq_ok_iff.1 hu) (.refl Entity.KeepsKeys.refl s)
      have hau := Database.Related.addressed (fun _ _ hx => hx.normalized.sameNames) hsu hs
      refine List.forall_mem_cons.2 ⟨fun e' he' => ?_, ih hau h⟩
      obtain ⟨e, he, hee⟩ := Database.Related.entity?' (fun _ _ hx => hx.normalized.sameNames)
        (keepsKeys_of_addMissingUniques h) he'
      exact hee.unique _ (isUniqueOn_of_addMissingUnique hs hu e he)

theorem keepsKeys_of_normalizeEntity (h : (p.normalizeEntity name).result s = .ok t) :
    s.Related Entity.KeepsKeys t :=
  (keeps_normalizeEntity (fun _ _ _ _ hx ha => hx.addUnique ha)
    (fun _ _ hx => hx.dropUnusedSizes p) name).of_ok (result_eq_ok_iff.1 h)
      (.refl Entity.KeepsKeys.refl s)

/-- A relation whose target was missing leads to a unique one once that has been added. -/
theorem missingUnique?_of_added (hs : s.Addressed) {targets : List (String × List String)}
    (h : (addMissingUniques targets).result s = .ok t) (hm : ∀ target ∈ missingUnique? s r, target ∈ targets) :
    missingUnique? t r = none := by
  have hst := keepsKeys_of_addMissingUniques h
  cases hr : missingUnique? s r with
  | none => exact missingUnique?_of_keepsKeys hr hst
  | some target =>
      have hmade := isUniqueOn_of_addMissingUniques hs h target (hm target hr)
      obtain ⟨_, _, foreign, hf, _, _, rfl⟩ := missingUnique?_eq_some_iff.1 hr
      by_contra hstill
      obtain ⟨target, hstill⟩ := Option.ne_none_iff_exists'.1 hstill
      obtain ⟨_, _, foreign', hf', hnot, _, _⟩ := missingUnique?_eq_some_iff.1 hstill
      obtain ⟨foreign₀, hf₀, hff⟩ := Database.Related.entity?' (fun _ _ hx => hx.normalized.sameNames) hst hf'
      obtain rfl := Option.some.inj (hf.symm.trans hf₀)
      have hat := Database.Related.addressed (fun _ _ hx => hx.normalized.sameNames) hst hs
      have hfound := hat.entity?_eq (Database.mem_of_entity? hf')
      rw [hff.normalized.sameNames.1] at hfound
      rw [hmade foreign' hfound] at hnot
      cases hnot

/-- After the step for an entity its relations lead to unique fields. -/
theorem uniqueTargets_of_normalizeEntity (hs : s.Addressed) (h : (p.normalizeEntity name).result s = .ok t) :
    t.UniqueTargets [name] := by
  rw [result_normalizeEntity] at h
  intro x hx e' he' r hr
  obtain rfl := List.mem_singleton.1 hx
  cases he : s.entity? x with
  | none =>
      rw [he] at h
      obtain rfl := Except.ok.inj h
      rw [he] at he'
      cases he'
  | some e =>
      rw [he] at h
      obtain ⟨u, hu, rfl⟩ := except_map_eq_ok_iff.1 h
      have hsu := keepsKeys_of_addMissingUniques hu
      have hau := Database.Related.addressed (fun _ _ hx => hx.normalized.sameNames) hsu hs
      have hst : s.Related Entity.KeepsKeys (u.modifyEntity x p.dropUnusedSizes) :=
        hsu.modifyEntity x fun _ _ hx => hx.dropUnusedSizes p
      obtain ⟨e₀, he₀, hee⟩ := Database.Related.entity?' (fun _ _ hx => hx.normalized.sameNames) hst he'
      obtain rfl := Option.some.inj (he.symm.trans he₀)
      rw [hee.normalized.frame] at hr
      rw [missingUnique?_modifyEntity hau]
      exact missingUnique?_of_added hs hu fun target hm => List.mem_filterMap.2 ⟨r, hr, hm⟩

/-- In the normalized copy all relations of the entities lead to unique fields, in whatever order these
are gone through. -/
theorem uniqueTargets_of_normalizeEntities (hs : s.Addressed) (h : (p.normalizeEntities names).result s = .ok n) :
    n.UniqueTargets names := by
  induction names generalizing s with
  | nil => exact fun name hm => nomatch hm
  | cons name rest ih =>
      rw [normalizeEntities, result_bind] at h
      obtain ⟨t, ht, h⟩ := except_bind_eq_ok_iff.1 h
      have hst := keepsKeys_of_normalizeEntity ht
      have hat := Database.Related.addressed (fun _ _ hx => hx.normalized.sameNames) hst hs
      have htn : t.Related Entity.KeepsKeys n :=
        related_of_normalizeEntities (fun _ _ _ _ hx ha => hx.addUnique ha)
          (fun _ _ hx => hx.dropUnusedSizes p) Entity.KeepsKeys.refl h
      have hfirst := uniqueTargets_of_keepsKeys (uniqueTargets_of_normalizeEntity hs ht) htn
      refine fun x hx => ?_
      rcases List.mem_cons.1 hx with rfl | hx
      · exact hfirst x (List.mem_singleton_self x)
      · exact ih hat h x hx

end Platform

/-- In the copy that the creation script of a finalized database is made from, every foreign key leads
to the primary key or to a unique constraint of its foreign entity. -/
theorem hasKey_of_finalize {doc : SchemaDocument} (hr : registry.Respects Database.Fresh)
    (hl : LoadedFrom registry doc db) (h : (Database.finalize registry p).result db = .ok db')
    (hn : (q.normalizeEntities (db'.entitiesForSql.map (·.name))).result db' = .ok n) :
    ∀ e ∈ n.entitiesForSql, ∀ r ∈ e.relations, r.skipSql = false → r.foreignFields.Nodup →
      ∃ foreign, n.entity? r.foreignEntity = some foreign ∧ foreign.HasKey r.foreignFields := by
  obtain ⟨a, u, t, hs⟩ := Database.exists_stages h
  have ha : a.Fresh := (hr.keeps_applyBehaviors fun _ _ h hx => h.of_extends hx).of_ok hs.applied hl.fresh
  have hc : db'.Closed := hs.closed ha
  have had : db'.Addressed := (hs.named ha.named).addressed
  have hrelated := Platform.normalized_of_normalizeEntities hn
  have hann := Database.Related.addressed (fun _ _ hx => hx.sameNames) hrelated had
  intro e' he' r hre hskip hd
  have hfound := hann.entity?_eq (Database.mem_entitiesForSql.1 he').1
  have hname : e'.name ∈ db'.entitiesForSql.map (·.name) := by
    rw [← hrelated.eligibleNames_eq]
    exact List.mem_map_of_mem he'
  have hunique := Platform.uniqueTargets_of_normalizeEntities had hn _ hname e' hfound r hre
  obtain ⟨e, he, hee⟩ := hrelated.entity?' hfound
  rw [hee.frame] at hre
  have hclosed := hc.relations e (Database.mem_of_entity? he) r hre
  obtain ⟨foreign, hf, hfields, -⟩ := hclosed.foreign
  obtain ⟨foreign', hf', hff⟩ := Database.Related.entity? (fun _ _ hx => hx.sameNames) hrelated hf
  refine ⟨foreign', hf', Entity.hasKey_of_isUniqueOn hd ?_⟩
  by_contra hnot
  have hall : r.foreignFields.all foreign'.hasField = true := by
    rw [hff.hasField_eq]
    exact List.all_eq_true.2 hfields
  have href : r.hasReferences = true := by simpa [Relation.hasReferences] using hclosed.references
  rw [Platform.missingUnique?_eq_some_iff.2 ⟨hskip, href, foreign', hf', by simpa using hnot, hall, rfl⟩]
    at hunique
  cases hunique

def codesDocument : SchemaDocument :=
  let field (name : String) : Document.Field := { name, fieldType := some "INTEGER" }
  { databases := [
      { name := "library"
        entities := [
          { name := "book"
            fields := [{ name := "id", fieldType := some "INTEGER", primaryKey := true }, field "number",
              field "volume", field "author", field "place", field "next_number", field "next_volume"]
            relations := [
              { foreignEntity := "author", references := [("author", "code"), ("place", "place")] },
              { foreignEntity := "author", references := [("author", "code")] },
              { foreignEntity := "book",
                references := [("next_volume", "volume"), ("next_number", "number")] }] },
          { name := "author"
            fields := [{ name := "id", fieldType := some "INTEGER", primaryKey := true }, field "code",
              field "place"]
            relations := [] }] }] }

theorem hasKey_of_finalize_codes : ∃ db db' n, LoadedFrom .builtins codesDocument db ∧
    (Database.finalize .builtins { dialect := .postgres }).result db = .ok db' ∧
    (Platform.normalizeEntities { dialect := .postgres } (db'.entitiesForSql.map (·.name))).result db' = .ok n ∧
    db' ≠ n ∧
    (∃ e ∈ n.entitiesForSql, e.relations.map (·.foreignFields) =
      [["code", "place"], ["code"], ["volume", "number"]]) ∧
    ∀ e ∈ n.entitiesForSql, ∀ r ∈ e.relations, r.skipSql = false → r.foreignFields.Nodup →
      ∃ foreign, n.entity? r.foreignEntity = some foreign ∧ foreign.HasKey r.foreignFields := by
  have hf : (codesDocument.finalized? { dialect := .postgres }).any (fun db' =>
      ((Platform.normalizeEntities { dialect := .postgres }
        (db'.entitiesForSql.map (·.name))).result db').toOption.any fun n =>
      decide (db' ≠ n ∧ ∃ e ∈ n.entitiesForSql,
        e.relations.map (·.foreignFields) = [["code", "place"], ["code"], ["volume", "number"]])) = true := by
    decide +kernel
  obtain ⟨db', hf, hn⟩ := (Option.any_eq_true _ _).1 hf
  obtain ⟨n, hn, hd⟩ := (Option.any_eq_true _ _).1 hn
  obtain ⟨hne, he⟩ := of_decide_eq_true hd
  have hn := except_toOption_eq_some_iff.1 hn
  obtain ⟨db, hl, h⟩ := SchemaDocument.loadedFrom_of_finalized? hf
  exact ⟨db, db', n, hl, h, hn, hne, he, hasKey_of_finalize Registry.additive_builtins.respects_fresh hl h hn⟩

end Tablecraft
