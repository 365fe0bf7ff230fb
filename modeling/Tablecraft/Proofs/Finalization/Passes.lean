import Tablecraft.Proofs.Behavior.Additive
import Tablecraft.Proofs.Document.Loading
import Tablecraft.Proofs.Finalization.Referrers

namespace Tablecraft

open List Edit

variable {registry : Registry} {p : Platform} {db db' : Database}

theorem Entity.Fresh.of_extends {tables : String → Option String} {e e' : Entity} (h : e.Fresh)
    (hx : e.Extends tables e') : e'.Fresh := by
  refine ⟨hx.distinct h.distinct, by rw [hx.referrers_eq, h.referrers], fun g hg => ?_⟩
  rcases hx.fields.of_mem hg with ⟨f, hf, hk⟩ | hp
  · rw [hk]
    exact h.fieldReferrers f hf
  · rw [hp]

theorem Database.Fresh.of_extends (h : db.Fresh) (hx : db.Extends db') : db'.Fresh := by
  refine ⟨hx.addressed h.addressed, fun e' he' => ?_⟩
  obtain ⟨e, he, hxe⟩ := FirstMatch.exists_of_mem' hx.entities he'
  exact (h.entities e he).of_extends hxe

theorem Database.Fresh.sourced (h : db.Fresh) : db.Sourced where
  referrers i e he ref hr := by
    rw [(h.entities e (List.mem_of_getElem? he)).referrers] at hr
    cases hr
  fieldReferrers i e he f hf ref hr := by
    rw [(h.entities e (List.mem_of_getElem? he)).fieldReferrers f hf] at hr
    cases hr

structure Database.Named (db : Database) : Prop where
  addressed : db.Addressed
  fieldNames : ∀ e ∈ db.entities, e.fieldNames.Nodup

theorem Database.Fresh.named (h : db.Fresh) : db.Named := ⟨h.addressed, fun e he => (h.entities e he).distinct⟩

theorem Database.Named.of_extends (h : db.Named) (hx : db.Extends db') : db'.Named := by
  refine ⟨hx.addressed h.addressed, fun e' he' => ?_⟩
  obtain ⟨e, he, hxe⟩ := FirstMatch.exists_of_mem' hx.entities he'
  exact hxe.distinct (h.fieldNames e he)

structure Database.Stages (registry : Registry) (p : Platform) (db a u t db' : Database) : Prop where
  applied : Database.applyBehaviors registry db = .ok () a
  settled : Finalization.settleAll p a.heavyIndexing a.entityNames a = .ok () u
  registered : Finalization.registerAllRelations a.entityNames u = .ok () t
  dialect : Finalization.dialectPass p a.entityNames t = .ok () db'

theorem Database.exists_stages (h : (Database.finalize registry p).result db = .ok db') :
    ∃ a u t, Stages registry p db a u t db' := by
  obtain ⟨_, a, ha, h⟩ := bind_eq_ok_iff.1 (result_eq_ok_iff.1 h)
  obtain ⟨_, u, hu, h⟩ := bind_eq_ok_iff.1 h
  obtain ⟨_, t, ht, hd⟩ := bind_eq_ok_iff.1 h
  exact ⟨a, u, t, ha, hu, ht, hd⟩

namespace Database.Stages

variable {a u t : Database}

theorem extended (h : Stages registry p db a u t db') : a.Extends u :=
  (Finalization.keeps_settleAll p a.heavyIndexing a.entityNames).of_ok h.settled (Database.Extends.refl a)

theorem informed (h : Stages registry p db a u t db') : u.Informed t := by
  have hx := (Finalization.notes_registerAllRelations a.entityNames u).of_ok h.registered
    (.refl Entity.Notes.refl u)
  exact ⟨hx.frame, hx.entities.imp fun _ _ hn => hn.toInformed⟩

theorem decorated (h : Stages registry p db a u t db') : t.Decorated db' :=
  (Finalization.keeps_dialectPass p a.entityNames).of_ok h.dialect
    (Database.Related.refl Entity.Decorated.refl t)

theorem named (h : Stages registry p db a u t db') (ha : a.Named) : db'.Named := by
  have hu := ha.of_extends h.extended
  have hit := h.informed
  have hd := h.decorated
  refine ⟨Database.Related.addressed (fun _ _ h => h.sameNames) hd (hit.addressed hu.addressed), ?_⟩
  intro e' he'
  obtain ⟨y, hy, hye⟩ := FirstMatch.exists_of_mem' hd.entities he'
  obtain ⟨x, hx, hxy⟩ := FirstMatch.exists_of_mem' hit.entities hy
  rw [Entity.fieldNames, hye.fields_eq, ← Entity.fieldNames, hxy.fieldNames_eq]
  exact hu.fieldNames x hx

end Database.Stages

/-- What a finalization that ends went through. -/
theorem Database.Fresh.finalize_passes (hf : db.Fresh) (hr : registry.Additive)
    (h : (Database.finalize registry p).result db = .ok db') :
    ∃ a u t, Database.applyBehaviors registry db = .ok () a ∧
      Finalization.settleAll p a.heavyIndexing a.entityNames a = .ok () u ∧
      Finalization.registerAllRelations a.entityNames u = .ok () t ∧
      Finalization.dialectPass p a.entityNames t = .ok () db' ∧
      db.Extends a ∧ a.Extends u ∧ u.Informed t ∧ t.Decorated db' ∧ a.Fresh := by
  obtain ⟨a, u, t, hs⟩ := Database.exists_stages h
  have hxa := (Database.keeps_applyBehaviors hr).of_ok hs.applied (Database.Extends.refl db)
  have hfa := hf.of_extends hxa
  exact ⟨a, u, t, hs.applied, hs.settled, hs.registered, hs.dialect, hxa, hs.extended, hs.informed,
    hs.decorated, hfa⟩

/-- Where effects leave names alone, finalization does too. -/
theorem Database.Named.of_finalize (hn : db.Named) (hr : registry.Respects Database.Named)
    (h : (Database.finalize registry p).result db = .ok db') : db'.Named := by
  obtain ⟨a, u, t, hs⟩ := Database.exists_stages h
  have ha : a.Named := (hr.keeps_applyBehaviors fun _ _ h hx => h.of_extends hx).of_ok hs.applied hn
  exact hs.named ha

theorem Registry.Additive.respects_fresh (hr : registry.Additive) : registry.Respects Database.Fresh :=
  hr.respects fun _ _ h hx => h.of_extends hx

theorem Registry.Additive.respects_named (hr : registry.Additive) : registry.Respects Database.Named :=
  hr.respects fun _ _ h hx => h.of_extends hx

/-- The names of entities still lead to them, and the names of fields stay distinct. -/
theorem Database.Fresh.of_finalize (hf : db.Fresh) (hr : registry.Additive)
    (h : (Database.finalize registry p).result db = .ok db') :
    db'.Addressed ∧ ∀ e ∈ db'.entities, e.fieldNames.Nodup := by
  have hn := hf.named.of_finalize hr.respects_named h
  exact ⟨hn.addressed, hn.fieldNames⟩

def SchemaDocument.first? (doc : SchemaDocument) : Option Database :=
  (doc.build .builtins).toOption.bind fun schema => schema.databases.head?

theorem SchemaDocument.loadedFrom_of_first? {doc : SchemaDocument} (h : doc.first? = some db) :
    LoadedFrom .builtins doc db := by
  obtain ⟨schema, hb, hd⟩ := Option.bind_eq_some_iff.1 h
  exact ⟨schema, except_toOption_eq_some_iff.1 hb, .inl (List.mem_of_head? hd)⟩

def SchemaDocument.finalized? (doc : SchemaDocument) (p : Platform) : Option Database :=
  (doc.build .builtins).toOption.bind fun schema => schema.databases.head?.bind fun db =>
    ((Database.finalize .builtins p).result db).toOption

theorem SchemaDocument.loadedFrom_of_finalized? {doc : SchemaDocument}
    (h : doc.finalized? p = some db') :
    ∃ db, LoadedFrom .builtins doc db ∧ (Database.finalize .builtins p).result db = .ok db' := by
  obtain ⟨schema, hb, h⟩ := Option.bind_eq_some_iff.1 h
  obtain ⟨db, hd, h⟩ := Option.bind_eq_some_iff.1 h
  refine ⟨db, ⟨schema, except_toOption_eq_some_iff.1 hb, .inl (List.mem_of_head? hd)⟩, ?_⟩
  exact except_toOption_eq_some_iff.1 h

theorem Database.exists_finalize_of_decide (p : Platform) (start : Option Database)
    (P : Database → Database → Prop) [∀ db db', Decidable (P db db')]
    (h : start.any (fun db => ((Database.finalize .builtins p).result db).toOption.any fun db' =>
      decide (P db db')) = true) :
    ∃ db db', start = some db ∧ (Database.finalize .builtins p).result db = .ok db' ∧ P db db' := by
  obtain ⟨db, hd, h⟩ := (Option.any_eq_true _ _).1 h
  obtain ⟨db', hf, hP⟩ := (Option.any_eq_true _ _).1 h
  exact ⟨db, db', hd, except_toOption_eq_some_iff.1 hf, of_decide_eq_true hP⟩

def libraryDocument : SchemaDocument :=
  { databases := [
      { name := "library"
        entities := [
          { name := "author"
            fields := [{ name := "id", fieldType := some "INTEGER", primaryKey := true, autoIncrement := true }]
            relations := [{ foreignEntity := "book", field := some "favourite" }]
            behaviors := [{ name := "timestampable" }] },
          { name := "book"
            fields := [{ name := "id", fieldType := some "INTEGER", primaryKey := true, autoIncrement := true },
              { name := "writer", fieldType := some "INTEGER" }]
            relations := [{ foreignEntity := "author", references := [("writer", "id")] },
              { foreignEntity := "book", field := some "sequel" }] }] }] }

end Tablecraft
