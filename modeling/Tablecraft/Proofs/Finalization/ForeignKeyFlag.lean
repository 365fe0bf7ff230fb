import Tablecraft.Proofs.Behavior.Benign
import Tablecraft.Proofs.Finalization.Passes
import Tablecraft.Proofs.Model.Flags

namespace Tablecraft

open List Edit

variable {registry : Registry} {p : Platform} {tables : String → Option String} {doc : SchemaDocument}
  {db db' a u t s : Database} {e e' e₀ : Entity} {name : String}

theorem Entity.assembles_knowsForeignKey : Assembles KnowsForeignKey where
  blank h := by
    refine ⟨by simp [fieldNames, h.fields], ?_⟩
    simp [KeyInRelation, h.relations, h.containsForeignKey]
  addField h _ ha := h.addField ha
  addIndex h ha := by
    obtain ⟨_, -, rfl⟩ := addIndex_eq_ok ha
    exact ⟨h.distinct, h.flag⟩
  addUnique h ha := by
    obtain ⟨_, -, rfl⟩ := addUnique_eq_ok ha
    exact ⟨h.distinct, h.flag⟩
  addRelation r h := h.addRelation r
  attachBehavior _ h := ⟨h.distinct, h.flag⟩

def Database.KnowsForeignKeys (db : Database) : Prop := ∀ e ∈ db.entities, e.KnowsForeignKey

theorem LoadedFrom.knowsForeignKeys (h : LoadedFrom registry doc db) : db.KnowsForeignKeys :=
  h.forall_entities Entity.assembles_knowsForeignKey fun _ _ _ _ he => ⟨he.distinct, he.flag⟩

/-- The mark is right where it is set. Pairs that are found later may call for it in other entities. -/
def Entity.MarkedRightly (e : Entity) : Prop :=
  e.containsForeignKey = true → Finalization.keepsKeyInRelation e = true

def Database.MarkedRightly (db : Database) : Prop := ∀ e ∈ db.entities, e.MarkedRightly

theorem Entity.Extends.isPrimaryKeyOf (h : e.Extends tables e') (hk : Finalization.isPrimaryKeyOf e name = true) :
    Finalization.isPrimaryKeyOf e' name = true := by
  unfold Finalization.isPrimaryKeyOf at hk ⊢
  cases hf : e.field? name with
  | none => simp [hf] at hk
  | some f =>
      rw [hf] at hk
      obtain ⟨g, hg, hfg⟩ := h.fields.exists_of_find? (fun f g hfg => by rw [hfg.name_eq]) hf
      rw [Entity.field?, hg, hfg]
      exact hk

theorem Entity.Extends.keepsKeyInRelation (h : e.Extends tables e')
    (hk : Finalization.keepsKeyInRelation e = true) : Finalization.keepsKeyInRelation e' = true := by
  simp only [Finalization.keepsKeyInRelation, any_eq_true] at hk ⊢
  obtain ⟨r, hr, name, hname, hkey⟩ := hk
  obtain ⟨s, hs, hrs⟩ := FirstMatch.exists_of_mem h.relations hr
  have hpairs : r.references ≠ [] := by
    intro hnone
    rw [Relation.localFields, hnone] at hname
    cases hname
  refine ⟨s, hs, name, ?_, h.isPrimaryKeyOf hkey⟩
  rwa [Relation.localFields, hrs.references hpairs]

structure Entity.ExtendsUnmarked (tables : String → Option String) (e e' : Entity) : Prop where
  extension : e.Extends tables e'
  unmarked : e'.containsForeignKey = e.containsForeignKey

theorem Entity.ExtendsUnmarked.markedRightly (h : e.ExtendsUnmarked tables e') (he : e.MarkedRightly) :
    e'.MarkedRightly :=
  fun hflag => h.extension.keepsKeyInRelation (he (h.unmarked ▸ hflag))

theorem Entity.containsForeignKey_of_plain {f : Field} (hf : f.Plain) (ha : e.addField f = .ok e') :
    e'.containsForeignKey = e.containsForeignKey := by
  obtain ⟨-, -, rfl⟩ := addField_eq_ok ha
  have hkey : f.primaryKey = false := by rw [hf]
  rw [appendField, hkey, Bool.false_and, Bool.or_false]

theorem Entity.absorbs_extendsUnmarked (limit : Nat) (tables : String → Option String) :
    Absorbs limit tables (ExtendsUnmarked tables) where
  sameNames h := h.extension.sameNames
  fullTable h := h.extension.fullTable_eq
  relations h := h.extension.relations
  setNameLimit h := ⟨(absorbs_extends limit tables).setNameLimit h.extension, h.unmarked⟩
  addIndex h ha := by
    refine ⟨(absorbs_extends limit tables).addIndex h.extension ha, ?_⟩
    obtain ⟨_, -, rfl⟩ := addIndex_eq_ok ha
    exact h.unmarked
  addUnique h ha := by
    refine ⟨(absorbs_extends limit tables).addUnique h.extension ha, ?_⟩
    obtain ⟨_, -, rfl⟩ := addUnique_eq_ok ha
    exact h.unmarked
  setIdMethod h := ⟨(absorbs_extends limit tables).setIdMethod h.extension, h.unmarked⟩
  mark name h := ⟨(absorbs_extends limit tables).mark name h.extension, h.unmarked⟩
  addField hf h ha :=
    ⟨(absorbs_extends limit tables).addField hf h.extension ha,
      (containsForeignKey_of_plain hf ha).trans h.unmarked⟩
  modifyRelationAt h hf hlimit :=
    ⟨(absorbs_extends limit tables).modifyRelationAt h.extension hf hlimit, h.unmarked⟩

theorem Database.MarkedRightly.of_related {R : Entity → Entity → Prop} (h : db.MarkedRightly)
    (hx : db.Related R db') (hR : ∀ x y, R x y → x.MarkedRightly → y.MarkedRightly) : db'.MarkedRightly := by
  intro e' he'
  obtain ⟨e, he, hee⟩ := FirstMatch.exists_of_mem' hx.entities he'
  exact hR e e' hee (h e he)

theorem Database.MarkedRightly.applyBehaviors (hb : db.Benign registry) (h : db.MarkedRightly)
    (ha : Database.applyBehaviors registry db = .ok () a) : a.MarkedRightly := by
  refine ((Benign.keeps_applyBehaviors (P := MarkedRightly) ?_ ?_ ?_).of_ok ha ⟨hb, h⟩).2
  · intro s b hs e he
    obtain ⟨x, hx, rfl⟩ := mem_map.1 he
    rw [Database.propagateTo_frame]
    exact hs x hx
  · intro s slot hs e he
    obtain ⟨x, hx, rfl | rfl⟩ := FirstMatch.mem_listModify he
    · exact hs _ hx
    · exact hs x hx
  · intro b name s hs
    have hcolumns (e₀ : Entity) :
        Keeps (e₀.ExtendsUnmarked s.tableOf?) (Timestampable.addColumns b Timestampable.columns) :=
      Timestampable.keeps_addColumns_of
        (fun _ _ _ hf hx hadd => (Entity.absorbs_extendsUnmarked 0 s.tableOf?).addField hf hx hadd) b _
    refine hs.of_related (Timestampable.keeps_onEntity_of hcolumns name s s
      (.refl (fun e => ⟨.refl e, rfl⟩) s)) ?_
    exact fun _ _ hx => hx.markedRightly

namespace Finalization

theorem markedRightly_markForeignKey (he : s.entity? name = some e) (hs : s.MarkedRightly) :
    (markForeignKey name e s).MarkedRightly := by
  unfold markForeignKey
  split
  · rename_i hk
    refine hs.of_related (R := fun x y => x.MarkedRightly → y.MarkedRightly) ?_ fun _ _ h => h
    refine Database.Related.of_modifyEntity (fun _ h => h) fun x hx _ _ => ?_
    obtain rfl := Option.some.inj (he.symm.trans hx)
    exact hk
  · exact hs

theorem markedRightly_registerAll (gs : List Registration) (hs : s.MarkedRightly) :
    (registerAll gs s).MarkedRightly := by
  induction gs generalizing s with
  | nil => exact hs
  | cons g rest ih =>
      refine ih (hs.of_related (R := fun x y => x.MarkedRightly → y.MarkedRightly) ?_ fun _ _ h => h)
      refine Database.Related.of_modifyEntity (fun _ h => h) fun x _ hx hflag => ?_
      rw [(notes_register g x).recalls.keepsKeyInRelation_eq]
      exact hx (containsForeignKey_register g x ▸ hflag)

theorem keeps_markedRightly_registerRelationsOf (name : String) :
    Keeps Database.MarkedRightly (registerRelationsOf name) := by
  refine .attempt fun s t hs h => ?_
  cases he : s.entity? name with
  | none =>
      rw [he] at h
      cases h
      exact hs
  | some e =>
      rw [he] at h
      obtain ⟨gs, -, h⟩ := except_bind_eq_ok_iff.1 h
      cases h
      exact markedRightly_registerAll gs (markedRightly_markForeignKey he hs)

theorem keeps_markedRightly_registerAllRelations (names : List String) :
    Keeps Database.MarkedRightly (registerAllRelations names) := by
  induction names with
  | nil => exact .pure
  | cons name rest ih => exact .bind (keeps_markedRightly_registerRelationsOf name) fun _ => ih

end Finalization

theorem Database.Stages.markedRightly (hs : Stages registry p db a u t db') (hb : db.Benign registry)
    (h : db.MarkedRightly) : t.MarkedRightly := by
  have hsettled : a.Related (Entity.ExtendsUnmarked a.tableOf?) u :=
    ((Entity.absorbs_extendsUnmarked _ a.tableOf?).keeps_settleAll a.heavyIndexing a.entityNames).of_ok hs.settled
      (.refl (fun e => ⟨.refl e, rfl⟩) a)
  have hu : u.MarkedRightly := (h.applyBehaviors hb hs.applied).of_related hsettled fun _ _ hx => hx.markedRightly
  exact (Finalization.keeps_markedRightly_registerAllRelations a.entityNames).of_ok hs.registered hu

/-- The mark is right where it is set, and the registration of the entity sets it where it has to be set. -/
theorem Database.Stages.knowsForeignKeys (hs : Stages registry p db a u t db') (hb : db.Benign registry)
    (hn : db.Named) (h : db.MarkedRightly) : db'.KnowsForeignKeys := by
  have hextended : db.Extends a := after_of_ok hs.applied ▸ (tamed_applyBehaviors hb.mild).extension
  have ha := hn.of_extends hextended
  have hu := ha.of_extends hs.extended
  have hregistered := (Finalization.replays_registerAllRelations a.entityNames).establishes.done hs.registered
  intro e' he'
  obtain ⟨e, he, hee⟩ := FirstMatch.exists_of_mem' hs.decorated.entities he'
  obtain ⟨x, hx, hxe⟩ := FirstMatch.exists_of_mem' hs.informed.entities he
  have hname : e.name ∈ a.entityNames := by
    rw [← Database.entityNames_congr hs.extended.sameNames, hxe.sameNames.1]
    exact mem_map_of_mem hx
  have hfound := (hs.informed.addressed hu.addressed).entity?_eq he
  have hdistinct := (hs.named ha).fieldNames e' he'
  refine ⟨hdistinct, ?_⟩
  rw [← Entity.keepsKeyInRelation_iff hdistinct, hee.recalls.keepsKeyInRelation_eq,
    show e'.containsForeignKey = e.containsForeignKey by rw [hee.frame]]
  exact ⟨hs.markedRightly hb h e he, (hregistered e.name hname e hfound).2⟩

theorem Database.knowsForeignKeys_of_finalize (hl : LoadedFrom registry doc db) (hb : db.Benign registry)
    (h : (Database.finalize registry p).result db = .ok db') : db'.KnowsForeignKeys := by
  obtain ⟨a, u, t, hs⟩ := exists_stages h
  refine hs.knowsForeignKeys hb hl.fresh.named fun e he hflag => ?_
  have hknown := hl.knowsForeignKeys e he
  exact (Entity.keepsKeyInRelation_iff hknown.distinct).2 (hknown.flag.1 hflag)

/-- In whatever order fields and relations are added, the entity contains a foreign key exactly if a local
field of a relation belongs to the primary key, and needs a transaction exactly if a field has one of the
three binary types. The former is so again when a loaded database is finalized, without behaviors or with such
as the bundled ones. -/
theorem flags_eq_of_parts :
    (∀ (e₀ e : Entity) (parts : List Entity.Part), e₀.Unbuilt → parts.foldlM Entity.addPart e₀ = .ok e →
      (e.containsForeignKey = true ↔
          ∃ r ∈ e.relations, ∃ name ∈ r.localFields, ∃ f ∈ e.fields, f.name = name ∧ f.primaryKey = true) ∧
        (e.needsTransaction = true ↔
          ∃ f ∈ e.fields, f.fieldType = .varBinary ∨ f.fieldType = .longVarBinary ∨ f.fieldType = .blob)) ∧
      ∀ (registry : Registry) (p : Platform) (doc : SchemaDocument) (db db' : Database),
        LoadedFrom registry doc db →
        db.Benign registry → (Database.finalize registry p).result db = .ok db' → ∀ e ∈ db'.entities,
          (e.containsForeignKey = true ↔
            ∃ r ∈ e.relations, ∃ name ∈ r.localFields, ∃ f ∈ e.fields, f.name = name ∧ f.primaryKey = true) := by
  constructor
  · intro e₀ e parts hunbuilt hrun
    obtain ⟨hforeign, htransaction⟩ := Entity.flags_of_addParts hunbuilt hrun
    refine ⟨hforeign.flag, htransaction.trans ?_⟩
    simp only [FieldType.needsTransaction_iff]
  · intro registry p doc db db' hl hb h e he
    exact (Database.knowsForeignKeys_of_finalize hl hb h e he).flag

def reprintParts : List Entity.Part :=
  [.relation { foreignEntity := "work", references := [("work", "id")] },
    .field { name := "work", domain := .ofType .integer, primaryKey := true },
    .field { name := "scan", domain := .ofType .blob }]

def reprintDocument : SchemaDocument :=
  { databases := [
      { name := "library"
        entities := [
          { name := "work"
            fields := [{ name := "id", fieldType := some "INTEGER", primaryKey := true }] },
          { name := "reprint"
            fields := [{ name := "work", fieldType := some "INTEGER", primaryKey := true }]
            relations := [{ foreignEntity := "work", references := [("work", "id")] },
              { foreignEntity := "reprint", field := some "original" }] }] }] }

theorem flags_eq_of_parts_reprint :
    (∃ e, reprintParts.foldlM Entity.addPart { name := "reprint" } = .ok e ∧ e.containsForeignKey = true ∧
        e.needsTransaction = true ∧
        (e.containsForeignKey = true ↔
          ∃ r ∈ e.relations, ∃ name ∈ r.localFields, ∃ f ∈ e.fields, f.name = name ∧ f.primaryKey = true) ∧
        (e.needsTransaction = true ↔
          ∃ f ∈ e.fields, f.fieldType = .varBinary ∨ f.fieldType = .longVarBinary ∨ f.fieldType = .blob)) ∧
      ∃ db db', LoadedFrom .builtins reprintDocument db ∧ db.Benign .builtins ∧
        (Database.finalize .builtins { dialect := .sqlite }).result db = .ok db' ∧
        (db'.entities.map fun e => (e.name, e.containsForeignKey)) = [("work", false), ("reprint", true)] ∧
        ∀ e ∈ db'.entities, (e.containsForeignKey = true ↔
          ∃ r ∈ e.relations, ∃ name ∈ r.localFields, ∃ f ∈ e.fields, f.name = name ∧ f.primaryKey = true) := by
  constructor
  · have hrun : reprintParts.foldlM Entity.addPart { name := "reprint" } = .ok _ := rfl
    exact ⟨_, hrun, rfl, rfl, flags_eq_of_parts.1 _ _ reprintParts ⟨rfl, rfl, rfl, rfl⟩ hrun⟩
  · obtain ⟨db, db', hd, h, hmarks⟩ :=
      Database.exists_finalize_of_decide { dialect := .sqlite } reprintDocument.first?
      (fun _ db' => (db'.entities.map fun e => (e.name, e.containsForeignKey)) =
        [("work", false), ("reprint", true)])
      (by decide +kernel)
    have hl := SchemaDocument.loadedFrom_of_first? hd
    have hb := Database.benign_builtins db
    exact ⟨db, db', hl, hb, h, hmarks, flags_eq_of_parts.2 _ _ _ db db' hl hb h⟩

end Tablecraft
