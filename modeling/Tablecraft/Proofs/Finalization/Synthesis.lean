import Tablecraft.Proofs.Finalization.Frame

namespace Tablecraft

open List Edit

variable {registry : Registry} {p : Platform} {tables : String → Option String}
  {keys : String → List (String × Domain)} {db db' a s u t : Database} {e e' e₀ foreign : Entity}
  {r : Relation} {f key : Field} {k : Nat} {names : List (String × Domain)} {pair : String × String}

def Entity.Mirrors (names : List (String × Domain)) (pair : String × String) (e : Entity) : Prop :=
  ∃ f, e.field? pair.1 = some f ∧ f.values = [] ∧ f.vendor = [] ∧ (pair.2, f.domain) ∈ names

theorem Entity.Mirrors.of_grows (h : e.Mirrors names pair)
    (hg : Grows Field.Kept Field.Plain e.fields e'.fields) :
    e'.Mirrors names pair := by
  obtain ⟨f, hf, hvalues, hvendor, hm⟩ := h
  obtain ⟨g, hg, hfg⟩ := hg.exists_of_find? (fun x y hxy => by rw [hxy.name_eq]) hf
  exact ⟨g, hg, by rw [hfg, hvalues], by rw [hfg, hvendor], by rwa [hfg]⟩

theorem Entity.mirrors_appendField (hn : e.hasField f.name = false) (hf : f.Plain)
    (hm : (key.name, f.domain) ∈ names) :
    (e.appendField f).Mirrors names (f.name, key.name) := by
  refine ⟨_, field?_appendField_self hn, ?_, ?_, hm⟩
  · rw [hf]
  · rw [hf]

structure Entity.Fills (tables : String → Option String) (keys : String → List (String × Domain))
    (e e' : Entity) : Prop where
  extension : e.Extends tables e'
  mirrors : Forall₂ (fun r s => r.references = [] → ∀ pair ∈ s.references, e'.Mirrors (keys r.foreignEntity) pair)
    e.relations e'.relations

namespace Entity.Fills

theorem refl (e : Entity) : e.Fills tables keys e :=
  ⟨.refl e, forall₂_same.2 fun r _ hr pair hm => by simp [hr] at hm⟩

theorem mark (h : e₀.Fills tables keys e) (name : String) :
    e₀.Fills tables keys (e.modifyField name fun f => { f with implementationDetail := true }) := by
  have hfields := FirstMatch.forall₂_modify (forall₂_same.2 fun f (_ : f ∈ e.fields) => Field.Kept.refl f)
    (·.name == name) (fun f => { f with implementationDetail := true }) fun f g hk => hk.trans rfl
  refine ⟨(absorbs_extends 0 tables).mark name h.extension, h.mirrors.imp fun r s hrs hr pair hm => ?_⟩
  exact (hrs hr pair hm).of_grows (.of_forall₂ hfields)

theorem markCarriers (names : List String) (h : e₀.Fills tables keys e) :
    e₀.Fills tables keys (Finalization.markCarriers names e) := by
  induction names generalizing e with
  | nil => exact h
  | cons name rest ih => exact ih (h.mark name)

theorem admits : Admits (e₀.Fills tables keys) where
  addIndex h ha := by
    refine ⟨h.extension.trans (.addIndex ha), ?_⟩
    obtain ⟨i, -, rfl⟩ := addIndex_eq_ok ha
    exact h.mirrors
  addUnique h ha := by
    refine ⟨h.extension.trans (.addUnique ha), ?_⟩
    obtain ⟨i, -, rfl⟩ := addUnique_eq_ok ha
    exact h.mirrors

theorem keeps_settleEntity (heavyIndexing : Bool) :
    Keeps (e₀.Fills tables keys) (Finalization.settleEntity p heavyIndexing) :=
  admits.keeps_settleEntity
    (fun _ h => ⟨h.extension.trans (.setNameLimit _ _), List.forall₂_map_right_iff.2 h.mirrors⟩)
    (fun _ h => ⟨(absorbs_extends 0 tables).setIdMethod h.extension, h.mirrors⟩) (fun _ h => h) heavyIndexing

theorem addReference (h : e₀.Fills tables keys e) (key : Field) (hf : f.Plain)
    (hk : ∀ r, e₀.relations[k]? = some r → r.references = [] ∧ (key.name, f.domain) ∈ keys r.foreignEntity)
    (ha : e.addField f = .ok e') :
    e₀.Fills tables keys (e'.modifyRelationAt k fun r => r.addReference f.name key.name) := by
  have hx := absorbs_extends 0 tables
  obtain ⟨hn, -, rfl⟩ := addField_eq_ok ha
  refine ⟨hx.modifyRelationAt (hx.addField hf h.extension ha) (fun r s hr hs => ?_) fun _ => rfl, ?_⟩
  · exact { frame := by rw [hs.frame]; rfl
            references := fun hne => absurd (hk r hr).1 hne
            table := hs.table }
  · have hgrows : Grows Field.Kept Field.Plain e.fields (e.appendField f).fields :=
      (Grows.refl Field.Kept.refl _).append (by rw [hf]; rfl)
    have hold := h.mirrors.imp fun r s hrs hr pair hm => (hrs hr pair hm).of_grows hgrows
    refine FirstMatch.forall₂_listModify hold k _ fun r s hr _ hrs hnil pair hm => ?_
    rcases List.mem_append.1 hm with hm | hm
    · exact hrs hnil pair hm
    · obtain rfl := List.mem_singleton.1 hm
      exact mirrors_appendField hn hf (hk r hr).2

section

open Finalization

theorem keeps_setForeignTable
    (hk : ∀ r, e₀.relations[k]? = some r → tables r.foreignEntity = some foreign.fullTable) :
    Keeps (e₀.Fills tables keys) (setForeignTable k foreign) := by
  intro e h
  have hx := (absorbs_extends 0 tables).keeps_setForeignTable hk e h.extension
  exact ⟨hx, FirstMatch.forall₂_listModify h.mirrors k _ fun _ _ _ _ hrs => hrs⟩

theorem keeps_addReferences {fields : List (Field × String)}
    (hk : ∀ r, e₀.relations[k]? = some r → r.references = [] ∧ keys r.foreignEntity = foreign.keys)
    (hf : ∀ q ∈ fields, ∃ key ∈ foreign.primaryKey, q = (synthesize r key, key.name)) :
    Keeps (e₀.Fills tables keys) (addReferences k fields) := by
  induction fields with
  | nil => exact .pure
  | cons q rest ih =>
      obtain ⟨⟨key, hkey, rfl⟩, hrest⟩ := List.forall_mem_cons.1 hf
      refine .bind (.attempt fun e e' h ha => ?_) fun _ => ih hrest
      obtain ⟨e₁, h₁, he⟩ := except_bind_eq_ok_iff.1 ha
      obtain rfl := Except.ok.inj he
      refine h.addReference key rfl (fun r hr => ⟨(hk r hr).1, ?_⟩) h₁
      rw [(hk r hr).2]
      exact List.mem_map_of_mem hkey

theorem keeps_settleReferences {edit : Edit Entity Unit} (h : settleReferences e foreign k r = .ok edit)
    (hk : ∀ r₀, e₀.relations[k]? = some r₀ → (r.references = [] → r₀.references = []) ∧
      tables r₀.foreignEntity = some foreign.fullTable ∧ keys r₀.foreignEntity = foreign.keys) :
    Keeps (e₀.Fills tables keys) edit := by
  have ht : Keeps (e₀.Fills tables keys) (setForeignTable k foreign) :=
    keeps_setForeignTable fun r hr => (hk r hr).2.1
  obtain ⟨-, -, rfl⟩ | ⟨fields, hr, hf, rfl⟩ := settleReferences_cases h
  · refine .bind (.succeed fun e h => ?_) fun _ => ht
    exact markCarriers (carriers _ foreign r) h
  · have hkeys (r₀ : Relation) (h₀ : e₀.relations[k]? = some r₀) := And.intro ((hk r₀ h₀).1 hr) (hk r₀ h₀).2.2
    refine .bind (keeps_addReferences (r := r) hkeys fun q hq => ?_) fun _ => ht
    obtain ⟨key, hkey, -, rfl⟩ := FirstMatch.exists_of_mem' (synthesizeAll_eq_ok hf).2 hq
    exact ⟨key, hkey, rfl⟩

end

end Entity.Fills

def Database.keysOf (db : Database) (name : String) : List (String × Domain) :=
  (db.entity? name).elim [] Entity.keys

def Database.Fills (db : Database) : Database → Prop := db.Related (Entity.Fills db.tableOf? db.keysOf)

namespace Database.Fills

open Finalization

theorem extension (h : db.Fills s) : db.Extends s := ⟨h.frame, h.entities.imp fun _ _ hx => hx.extension⟩

theorem keysOf_eq (h : db.Fills s) {name : String} (hf : s.entity? name = some foreign) :
    db.keysOf name = foreign.keys := by
  obtain ⟨foreign₀, h₀, hx⟩ := Related.entity?' (fun _ _ hx => hx.extension.sameNames) h hf
  rw [Database.keysOf, h₀, Option.elim_some, hx.extension.keys_eq]

theorem keeps_settleRelation (i k : Nat) : Keeps db.Fills (settleRelation i k) := by
  have hrelations (x y : Entity) (h : x.Fills db.tableOf? db.keysOf y) := h.extension.relations
  refine keeps_settleRelation_of hrelations fun s e₀ e foreign r₀ r edit hs hr hk hf he hx => ?_
  refine Entity.Fills.keeps_settleReferences he (fun r' hr' => ?_) e hx
  obtain rfl : r₀ = r' := Option.some.inj (hr.symm.trans hr')
  have hs : db.Fills s := hs
  refine ⟨hk.references_eq_nil, ?_, hs.keysOf_eq hf⟩
  rw [← hs.extension.tableOf?_eq, Database.tableOf?, hf, Option.map_some]

theorem keeps_settleAll (heavyIndexing : Bool) (names : List String) :
    Keeps db.Fills (settleAll p heavyIndexing names) :=
  keeps_settleAll_of_each keeps_settleRelation
    (fun name => Related.keeps_editEntity name fun _ => Entity.Fills.keeps_settleEntity heavyIndexing) names

end Database.Fills

/-- The pair leads from the field of the entity to the key of the foreign entity. -/
structure Database.KeyPair (db : Database) (e : Entity) (r : Relation) (pair : String × String) (f : Field)
    (foreign : Entity) (key : Field) : Prop where
  entity : db.entity? r.foreignEntity = some foreign
  isKey : key ∈ foreign.primaryKey
  keyName : key.name = pair.2
  field : e.field? pair.1 = some f

theorem Database.exists_of_mem_keysOf {name : String} {q : String × Domain} (h : q ∈ db.keysOf name) :
    ∃ foreign, db.entity? name = some foreign ∧ ∃ key ∈ foreign.primaryKey, (key.name, key.domain) = q := by
  unfold keysOf at h
  cases hf : db.entity? name with
  | none => simp [hf] at h
  | some foreign =>
      rw [hf] at h
      exact ⟨foreign, rfl, List.mem_map.1 h⟩

/-- Every pair that a relation without pairs in `a` has now leads from a field to a key that are so related.
-/
def Database.FoundPairs (db a : Database) (R : Entity → Field → Entity → Field → Prop) : Prop :=
  Forall₂ (fun e₀ e => Forall₂ (fun r₀ r => r₀.references = [] → ∀ pair ∈ r.references, ∃ f foreign key,
    db.KeyPair e r pair f foreign key ∧ R e f foreign key) e₀.relations e.relations) a.entities db.entities

theorem Database.FoundPairs.imp {R S : Entity → Field → Entity → Field → Prop}
    (hRS : ∀ e f foreign key, R e f foreign key → S e f foreign key) (h : db.FoundPairs a R) :
    db.FoundPairs a S := by
  refine List.Forall₂.imp (fun e₀ e he => he.imp fun r₀ r hr hn pair hm => ?_) h
  obtain ⟨f, foreign, key, hpair, hR⟩ := hr hn pair hm
  exact ⟨f, foreign, key, hpair, hRS _ _ _ _ hR⟩

/-- The passes after the sweep complete what it left, and let the relations be. -/
theorem Database.Stages.swept (h : Stages registry p db a u t db') :
    u.Related (fun e e' => e.Completed tables e' ∧ e'.relations = e.relations) db' :=
  Related.trans (fun x y z (hxy : x.Informed y) (hyz : y.Decorated z) =>
    ⟨(Entity.Completed.of_informed hxy).trans (.of_decorated hyz), hyz.relations_eq.trans hxy.relations_eq⟩)
    h.informed h.decorated

theorem Database.Stages.references_ne_nil (h : Stages registry p db a u t db') (ha : a.Addressed) :
    ∀ e ∈ db'.entities, ∀ r ∈ e.relations, r.references ≠ [] := by
  intro e' he' r hr
  have hd : u.Related (fun e e' => e.Completed a.tableOf? e' ∧ e'.relations = e.relations) db' := h.swept
  obtain ⟨e, he, -, hrelations⟩ := FirstMatch.exists_of_mem' hd.entities he'
  exact (Finalization.settled_of_settleAll ha h.settled e he r (hrelations ▸ hr)).references

/-- The fields that finalization makes have the domains of the keys, and neither values nor vendor parameters,
whatever the keys have. -/
theorem Database.Stages.foundPairs (h : Stages registry p db a u t db') :
    db'.FoundPairs a fun _ f _ key => f.domain = key.domain ∧ f.values = [] ∧ f.vendor = [] := by
  have hu : a.Fills u := (Fills.keeps_settleAll a.heavyIndexing a.entityNames).of_ok h.settled
    (Related.refl Entity.Fills.refl a)
  have hd : u.Related (fun e e' => e.Completed a.tableOf? e' ∧ e'.relations = e.relations) db' := h.swept
  have ha : a.Completed db' :=
    Related.trans (fun _ _ _ hxy hyz => (Entity.Completed.of_extends hxy.extension).trans hyz.1) hu hd
  refine FirstMatch.forall₂_trans (fun x y z hxy hyz => ?_) hu.entities hd.entities
  rw [hyz.2]
  refine (FirstMatch.forall₂_and hxy.mirrors hxy.extension.relations).imp fun r s ⟨hrs, hk⟩ hnil pair hm => ?_
  obtain ⟨f, hf, hvalues, hvendor, hkey⟩ := hrs hnil pair hm
  obtain ⟨foreign, hforeign, key, hkey, heq⟩ := exists_of_mem_keysOf hkey
  obtain ⟨hname, hdomain⟩ := Prod.mk.inj heq
  obtain ⟨g, hg, hfg⟩ := hyz.1.field? hf
  obtain ⟨foreign', hforeign', hff⟩ := Related.entity? (fun _ _ hx => hx.sameNames) ha hforeign
  obtain ⟨key', hkey', hkk⟩ := hff.exists_primaryKey hkey
  refine ⟨g, foreign', key', ⟨hk.foreignEntity_eq ▸ hforeign', hkey', ?_, hg⟩, ?_, ?_, ?_⟩
  · rw [hkk, hname]
  · rw [hfg, hkk, hdomain]
  · rw [hfg, hvalues]
  · rw [hfg, hvendor]

end Tablecraft
