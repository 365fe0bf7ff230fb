import Tablecraft.Document.Building
import Tablecraft.Proofs.Model.Joining
import Tablecraft.Proofs.Model.Parts

namespace Tablecraft

open Edit

def LoadedFrom (registry : Registry) (doc : SchemaDocument) (db : Database) : Prop :=
  ∃ schema, doc.build registry = .ok schema ∧
    (db ∈ schema.databases ∨ ∃ joined, schema.join = .ok () joined ∧ db ∈ joined.databases)

structure Entity.Fresh (e : Entity) : Prop where
  distinct : e.fieldNames.Nodup
  referrers : e.referrers = []
  fieldReferrers : ∀ f ∈ e.fields, f.referrers = []

structure Database.Fresh (db : Database) : Prop where
  addressed : db.Addressed
  entities : ∀ e ∈ db.entities, e.Fresh

theorem Entity.Fresh.addField {e e' : Entity} {f : Field} (h : e.Fresh) (hf : f.referrers = [])
    (ha : e.addField f = .ok e') : e'.Fresh := by
  have hd := nodup_addField h.distinct ha
  obtain ⟨_, _, rfl⟩ := addField_eq_ok ha
  refine ⟨hd, h.referrers, fun g hg => ?_⟩
  rcases List.mem_append.1 hg with hg | hg
  · exact h.fieldReferrers g hg
  · rw [List.mem_singleton.1 hg]
    exact hf

structure Entity.Blank (e : Entity) : Prop where
  fields : e.fields = []
  indices : e.indices = []
  uniques : e.uniques = []
  relations : e.relations = []
  referrers : e.referrers = []
  containsForeignKey : e.containsForeignKey = false
  nameLimit : e.nameLimit = Naming.defaultLimit

structure Entity.Assembles (P : Entity → Prop) : Prop where
  blank {e : Entity} : e.Blank → P e
  addField {e e' : Entity} {f : Field} : P e → f.referrers = [] → e.addField f = .ok e' → P e'
  addIndex {e e' : Entity} {i : Index} : P e → e.addIndex i = .ok e' → P e'
  addUnique {e e' : Entity} {i : Index} : P e → e.addUnique i = .ok e' → P e'
  addRelation {e : Entity} (r : Relation) : P e → P (e.addRelation r)
  attachBehavior {e : Entity} (b : Behavior) : P e → P (e.attachBehavior b)

theorem Entity.assembles_fresh : Entity.Assembles Entity.Fresh where
  blank h := ⟨by simp [fieldNames, h.fields], h.referrers, by simp [h.fields]⟩
  addField h hf ha := h.addField hf ha
  addIndex h ha := by
    obtain ⟨i, _, rfl⟩ := addIndex_eq_ok ha
    exact ⟨h.distinct, h.referrers, h.fieldReferrers⟩
  addUnique h ha := by
    obtain ⟨i, _, rfl⟩ := addUnique_eq_ok ha
    exact ⟨h.distinct, h.referrers, h.fieldReferrers⟩
  addRelation _ h := ⟨h.distinct, h.referrers, h.fieldReferrers⟩
  attachBehavior _ h := ⟨h.distinct, h.referrers, h.fieldReferrers⟩

namespace Document

variable {registry : Registry} {db : Tablecraft.Database}

theorem referrers_buildField {entity : String} {d : Field} {f : Tablecraft.Field}
    (h : buildField db entity d = .ok f) : f.referrers = [] := by
  obtain ⟨_, _, h⟩ := except_bind_eq_ok_iff.1 h
  cases h
  rfl

/-- An entity is built from a blank one, and its parts are added one after the other. -/
theorem of_buildEntity {P : Tablecraft.Entity → Prop} (hP : Entity.Assembles P) {d : Entity}
    {e : Tablecraft.Entity} (h : buildEntity registry db d = .ok e) : P e := by
  obtain ⟨idMethod, _, h⟩ := except_bind_eq_ok_iff.1 h
  obtain ⟨e₁, h₁, h⟩ := except_bind_eq_ok_iff.1 h
  obtain ⟨e₂, h₂, h⟩ := except_bind_eq_ok_iff.1 h
  obtain ⟨e₃, h₃, h⟩ := except_bind_eq_ok_iff.1 h
  obtain ⟨e₄, h₄, h₅⟩ := except_bind_eq_ok_iff.1 h
  have p₁ : P e₁ := by
    refine foldlM_keeps (fun s a t hs ht => ?_) (hP.blank ⟨rfl, rfl, rfl, rfl, rfl, rfl, rfl⟩) h₁
    obtain ⟨f, hf, ht⟩ := except_bind_eq_ok_iff.1 ht
    exact hP.addField hs (referrers_buildField hf) ht
  have p₂ : P e₂ := foldlM_keeps (fun _ _ _ hs ht => hP.addIndex hs ht) p₁ h₂
  have p₃ : P e₃ := foldlM_keeps (fun _ _ _ hs ht => hP.addUnique hs ht) p₂ h₃
  have p₄ : P e₄ := by
    refine foldlM_keeps (fun s a t hs ht => ?_) p₃ h₄
    obtain ⟨r, _, ht⟩ := except_bind_eq_ok_iff.1 ht
    cases ht
    exact hP.addRelation r hs
  refine foldlM_keeps (fun s a t hs ht => ?_) p₄ h₅
  obtain ⟨b, _, ht⟩ := except_bind_eq_ok_iff.1 ht
  obtain ⟨-, rfl⟩ := Entity.addBehavior_eq_ok ht
  exact hP.attachBehavior b hs

end Document

theorem Database.entities_addSequences (names : List String) (db : Database) :
    (names.foldl (fun db name => db.addSequence name) db).entities = db.entities := by
  induction names generalizing db with
  | nil => rfl
  | cons name rest ih =>
      rw [List.foldl_cons, ih, addSequence]
      split <;> rfl

namespace Document

variable {registry : Registry}

/-- A database is built from one without entities, by adding entities that are built. -/
theorem of_buildDatabase {P : Tablecraft.Database → Prop} {Q : Tablecraft.Entity → Prop}
    (hempty : ∀ db : Tablecraft.Database, db.entities = [] → P db)
    (hadd : ∀ (db db' : Tablecraft.Database) (e : Tablecraft.Entity), P db → Q e →
      db.addEntity e = .ok db' → P db')
    (hentity : ∀ (db : Tablecraft.Database) (d : Entity) (e : Tablecraft.Entity),
      buildEntity registry db d = .ok e → Q e)
    {d : Database} {db : Tablecraft.Database} (h : buildDatabase registry d = .ok db) : P db := by
  obtain ⟨dialect, _, h⟩ := except_bind_eq_ok_iff.1 h
  obtain ⟨idMethod, _, h⟩ := except_bind_eq_ok_iff.1 h
  obtain ⟨db₁, h₁, h⟩ := except_bind_eq_ok_iff.1 h
  obtain ⟨db₂, h₂, h₃⟩ := except_bind_eq_ok_iff.1 h
  have e₁ : db₁.entities = [] := by
    refine foldlM_keeps (P := fun db => db.entities = []) (fun s a t hs ht => ?_) rfl h₁
    obtain ⟨domain, _, ht⟩ := except_bind_eq_ok_iff.1 ht
    cases ht
    exact hs
  have e₂ : db₂.entities = [] := by
    refine foldlM_keeps (P := fun db => db.entities = []) (fun s a t hs ht => ?_) ?_ h₂
    · obtain ⟨b, _, ht⟩ := except_bind_eq_ok_iff.1 ht
      obtain ⟨-, rfl⟩ := Tablecraft.Database.addBehavior_eq_ok ht
      exact hs
    · rw [Tablecraft.Database.entities_addSequences, e₁]
  refine foldlM_keeps (fun s a t hs ht => ?_) (hempty db₂ e₂) h₃
  obtain ⟨e, he, ht⟩ := except_bind_eq_ok_iff.1 ht
  exact hadd s t e hs (hentity s a e he) ht

end Document

namespace SchemaDocument

variable {registry : Registry}

variable {P : Database → Prop}

mutual

/-- What the databases of documents have, those of a tree of schemas have. -/
theorem gathered_build (hb : ∀ d db, Document.buildDatabase registry d = .ok db → P db)
    (hp : ∀ (db : Database) (parent : Option String), P db → P { db with parent }) {doc : SchemaDocument}
    {schema : Schema} (h : doc.build registry = .ok schema) : ∀ db ∈ schema.gathered, P db := by
  match doc with
  | ⟨name, databases, externals⟩ =>
    rw [build] at h
    obtain ⟨own, ho, h⟩ := except_bind_eq_ok_iff.1 h
    obtain ⟨others, hx, h⟩ := except_bind_eq_ok_iff.1 h
    cases h
    rw [Schema.gathered]
    refine List.forall_mem_append.2 ⟨?_, gathered_buildAll hb hp hx⟩
    refine foldlM_keeps (P := fun s : Schema => ∀ db ∈ s.databases, P db) (fun s a t hs ht => ?_) (by simp) ho
    obtain ⟨db, hd, ht⟩ := except_bind_eq_ok_iff.1 ht
    unfold Schema.addDatabase at ht
    split at ht
    · cases ht
    · cases ht
      exact List.forall_mem_append.2 ⟨hs, List.forall_mem_singleton.2 (hp db _ (hb a db hd))⟩

theorem gathered_buildAll (hb : ∀ d db, Document.buildDatabase registry d = .ok db → P db)
    (hp : ∀ (db : Database) (parent : Option String), P db → P { db with parent }) {docs : List SchemaDocument}
    {schemas : List Schema} (h : buildAll registry docs = .ok schemas) :
    ∀ db ∈ Schema.gatherAll schemas, P db := by
  match docs with
  | [] =>
    cases h
    simp [Schema.gatherAll]
  | d :: rest =>
    rw [buildAll] at h
    obtain ⟨schema, hd, h⟩ := except_bind_eq_ok_iff.1 h
    obtain ⟨others, hr, h⟩ := except_bind_eq_ok_iff.1 h
    cases h
    rw [Schema.gatherAll]
    exact List.forall_mem_append.2 ⟨gathered_build hb hp hd, gathered_buildAll hb hp hr⟩

end

end SchemaDocument

namespace LoadedFrom

variable {registry : Registry} {doc : SchemaDocument} {db : Database}

/-- What the databases of documents have and pass on when they are joined, a loaded database has. -/
theorem of_heritable {P : Database → Prop} {Q : Entity → Prop} (hh : Database.Heritable P Q)
    (hb : ∀ d db, Document.buildDatabase registry d = .ok db → P db) (h : LoadedFrom registry doc db) : P db := by
  obtain ⟨schema, hs, hm | ⟨joined, hj, hm⟩⟩ := h
  · refine SchemaDocument.gathered_build hb (fun _ parent hd => hh.parent parent hd) hs db ?_
    rw [Schema.gathered_eq]
    exact List.mem_append_left _ hm
  · exact hh.of_join (SchemaDocument.gathered_build hb (fun _ parent hd => hh.parent parent hd) hs) hj db hm

/-- What entities have from the start and keep wherever they go, the entities of a loaded database have. -/
theorem forall_entities {P : Entity → Prop} (ha : Entity.Assembles P) (hp : Entity.Portable P)
    (h : LoadedFrom registry doc db) : ∀ e ∈ db.entities, P e := by
  refine h.of_heritable (Database.heritable_of_portable hp) fun _ _ hd => ?_
  apply Document.of_buildDatabase _ (fun _ _ _ hs he ht => Database.forall_addEntity hs (hp _ _ _ _ he) ht) _ hd
  · intro db he
    simp [he]
  · exact fun _ _ _ he => Document.of_buildEntity ha he

theorem addressed (h : LoadedFrom registry doc db) : db.Addressed := by
  refine h.of_heritable Database.heritable_addressed fun _ _ hd => ?_
  apply Document.of_buildDatabase _ (fun _ _ _ hs _ ht => hs.addEntity ht) (fun _ _ _ _ => trivial) hd
  intro db he
  simp [Database.Addressed, he]

theorem fresh (h : LoadedFrom registry doc db) : db.Fresh :=
  ⟨h.addressed, h.forall_entities Entity.assembles_fresh fun _ _ _ _ he =>
    ⟨he.distinct, he.referrers, he.fieldReferrers⟩⟩

end LoadedFrom

end Tablecraft
