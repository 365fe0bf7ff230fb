import Tablecraft.Proofs.Finalization.Decoration
import Tablecraft.Proofs.Finalization.References

namespace Tablecraft

open List Edit

variable {db db' s t : Database} {e e' e'' : Entity} {r : Relation} {name : String}

structure Entity.Recalls (e e' : Entity) : Prop where
  sameNames : e.SameNames e'
  relations : e'.relations = e.relations
  fields : Forall₂ Field.Informed e.fields e'.fields
  referrers : e.referrers ⊆ e'.referrers
  containsForeignKey : e.containsForeignKey = true → e'.containsForeignKey = true

structure Entity.Notes (e e' : Entity) : Prop extends Entity.Informed e e' where
  containsForeignKey : e.containsForeignKey = true → e'.containsForeignKey = true

namespace Entity.Recalls

theorem field? (h : e.Recalls e') {f : Field} (hf : e.field? name = some f) :
    ∃ f', e'.field? name = some f' ∧ f.Informed f' :=
  FirstMatch.exists_of_find? h.fields (fun _ _ hk => by rw [hk.name_eq]) hf

theorem field?' (h : e.Recalls e') {f' : Field} (hf : e'.field? name = some f') :
    ∃ f, e.field? name = some f ∧ f.Informed f' :=
  FirstMatch.exists_of_find?' h.fields (fun _ _ hk => by rw [hk.name_eq]) hf

theorem hasField_eq (h : e.Recalls e') (name : String) : e'.hasField name = e.hasField name := by
  have hn : e'.fieldNames = e.fieldNames := FirstMatch.map_eq_of_forall₂ h.fields fun _ _ hf => hf.name_eq
  rw [Bool.eq_iff_iff, Entity.hasField_iff, Entity.hasField_iff, hn]

theorem keepsKeyInRelation_eq (h : e.Recalls e') :
    Finalization.keepsKeyInRelation e' = Finalization.keepsKeyInRelation e := by
  have hkey : Finalization.isPrimaryKeyOf e' = Finalization.isPrimaryKeyOf e := by
    funext name
    unfold Finalization.isPrimaryKeyOf
    cases hf : e.field? name with
    | some f =>
        obtain ⟨f', hf', hk⟩ := h.field? hf
        rw [hf', hk.frame]
    | none =>
        cases hf' : e'.field? name with
        | none => rfl
        | some f' =>
            obtain ⟨f, hf₀, -⟩ := h.field?' hf'
            simp [hf] at hf₀
  unfold Finalization.keepsKeyInRelation
  rw [h.relations, hkey]

end Entity.Recalls

theorem Entity.Notes.recalls (h : e.Notes e') : e.Recalls e' :=
  ⟨h.toInformed.sameNames, h.toInformed.relations_eq, h.fields, h.referrers, h.containsForeignKey⟩

theorem Entity.Notes.refl (e : Entity) : e.Notes e := ⟨.refl e, id⟩

theorem Entity.Notes.trans (h : e.Notes e') (h' : e'.Notes e'') : e.Notes e'' :=
  ⟨h.toInformed.trans h'.toInformed, h'.containsForeignKey ∘ h.containsForeignKey⟩

theorem Entity.Decorated.recalls (h : e.Decorated e') : e.Recalls e' where
  sameNames := h.sameNames
  relations := h.relations_eq
  fields := by
    rw [h.fields_eq]
    exact forall₂_same.2 fun f _ => .refl f
  referrers := by
    rw [h.referrers_eq]
    exact List.Subset.refl _
  containsForeignKey hc := by
    rw [h.frame]
    exact hc

namespace Finalization

variable {g : Registration}

def Registration.NotedIn (g : Registration) (e : Entity) : Prop :=
  g.reference ∈ e.referrers ∧ ∀ name ∈ g.fields, ∀ f, e.field? name = some f → g.reference ∈ f.referrers

theorem Registration.NotedIn.of_recalls (h : g.NotedIn e) (hr : e.Recalls e') : g.NotedIn e' := by
  refine ⟨hr.referrers h.1, fun name hn f' hf' => ?_⟩
  obtain ⟨f, hf, hk⟩ := hr.field?' hf'
  exact hk.referrers (h.2 name hn f hf)

def Registration.Noted (g : Registration) (db : Database) : Prop :=
  ∀ e, db.entity? g.foreign = some e → g.NotedIn e

theorem Registration.Noted.of_recalls (h : g.Noted db) (hr : db.Related Entity.Recalls db') : g.Noted db' := by
  intro e' he'
  obtain ⟨e, he, hx⟩ := Database.Related.entity?' (fun _ _ h => h.sameNames) hr he'
  exact (h e he).of_recalls hx

theorem containsForeignKey_register (g : Registration) (e : Entity) :
    (register g e).containsForeignKey = e.containsForeignKey := by
  have hfields (names : List String) (e : Entity) : (names.foldl (fun e name => e.modifyField name
      (Field.addReferrer g.reference)) e).containsForeignKey = e.containsForeignKey := by
    induction names generalizing e with
    | nil => rfl
    | cons name rest ih => rw [List.foldl_cons, ih, Entity.modifyField]
  rw [register, hfields, Entity.addReferrer_eq]

theorem notes_register (g : Registration) (e : Entity) : e.Notes (register g e) :=
  ⟨informed_register g e, fun hc => (containsForeignKey_register g e).trans hc⟩

theorem register_eq_self (h : g.NotedIn e) : register g e = e := by
  have hadd : e.addReferrer g.reference = e := by rw [Entity.addReferrer, if_pos h.1]
  have hfields (names : List String) (hn : ∀ name ∈ names, ∀ f, e.field? name = some f →
    g.reference ∈ f.referrers) :
      names.foldl (fun e name => e.modifyField name (Field.addReferrer g.reference)) e = e := by
    induction names with
    | nil => rfl
    | cons name rest ih =>
        obtain ⟨hname, hrest⟩ := List.forall_mem_cons.1 hn
        have hself : e.modifyField name (Field.addReferrer g.reference) = e :=
          modifyField_eq_self fun f hf => by rw [Field.addReferrer, if_pos (hname f hf)]
        rw [List.foldl_cons, hself, ih hrest]
  rw [register, hadd, hfields g.fields h.2]

theorem notedIn_register (g : Registration) (e : Entity) : g.NotedIn (register g e) := by
  have hfields (names : List String) (e : Entity) :
      ∀ name ∈ names, ∀ f, (names.foldl (fun e name => e.modifyField name
      (Field.addReferrer g.reference)) e).field? name = some f → g.reference ∈ f.referrers := by
    induction names generalizing e with
    | nil => simp
    | cons name rest ih =>
        refine List.forall_mem_cons.2 ⟨fun f hf => ?_, ih _⟩
        have hi := informed_fields g.reference rest (e.modifyField name (Field.addReferrer g.reference))
        have hn : (e.modifyField name (Field.addReferrer g.reference)).hasField name = true := by
          rw [Entity.hasField_iff, ← hi.fieldNames_eq, ← Entity.hasField_iff]
          exact Entity.hasField_of_field? hf
        rw [Entity.hasField_iff, (Entity.Informed.modifyField g.reference name e).fieldNames_eq,
          ← Entity.hasField_iff] at hn
        obtain ⟨f₁, hf₁, hr⟩ := mem_modifyField g.reference hn
        obtain ⟨f₂, hf₂, hk⟩ := hi.field? hf₁
        obtain rfl : f₂ = f := Option.some.inj (hf₂.symm.trans hf)
        exact hk.referrers hr
  refine ⟨?_, hfields g.fields _⟩
  rw [register, referrers_fields]
  exact Entity.mem_addReferrer.2 (.inl rfl)

theorem notes_modifyEntity (name : String) {f : Entity → Entity} (hf : ∀ e : Entity, e.Notes (f e))
    (db : Database) :
    db.Related Entity.Notes (db.modifyEntity name f) :=
  Database.Related.of_modifyEntity Entity.Notes.refl fun e _ => hf e

theorem notes_registerAll (gs : List Registration) (db : Database) :
    db.Related Entity.Notes (registerAll gs db) := by
  induction gs generalizing db with
  | nil => exact .refl Entity.Notes.refl db
  | cons g rest ih =>
      exact Database.Related.trans (fun _ _ _ h h' => h.trans h')
        (notes_modifyEntity g.foreign (notes_register g) db) (ih _)

theorem recalls_registerAll (gs : List Registration) (db : Database) :
    db.Related Entity.Recalls (registerAll gs db) :=
  ⟨(notes_registerAll gs db).frame, (notes_registerAll gs db).entities.imp fun _ _ h => h.recalls⟩

theorem noted_modifyEntity (g : Registration) (db : Database) :
    g.Noted (db.modifyEntity g.foreign (register g)) := by
  intro e he
  rw [Database.entity?_modifyEntity_self fun x => (notes_register g x).toInformed.sameNames] at he
  obtain ⟨e₀, -, rfl⟩ := Option.map_eq_some_iff.1 he
  exact notedIn_register g e₀

theorem noted_registerAll (gs : List Registration) (db : Database) : ∀ g ∈ gs, g.Noted (registerAll gs db) := by
  induction gs generalizing db with
  | nil => simp
  | cons g rest ih =>
      exact List.forall_mem_cons.2 ⟨(noted_modifyEntity g db).of_recalls (recalls_registerAll rest _), ih _⟩

theorem registerAll_eq_self {gs : List Registration} (h : ∀ g ∈ gs, g.Noted db) : registerAll gs db = db := by
  induction gs with
  | nil => rfl
  | cons g rest ih =>
      obtain ⟨hg, hrest⟩ := List.forall_mem_cons.1 h
      have hself : db.modifyEntity g.foreign (register g) = db := by
        cases he : db.entity? g.foreign with
        | none => exact Database.modifyEntity_eq_self he
        | some e => rw [Database.modifyEntity, FirstMatch.modify_eq_self_of_find? he (register_eq_self (hg e he))]
      rw [registerAll, List.foldl_cons, hself]
      exact ih hrest

theorem notes_markForeignKey (name : String) (e : Entity) (db : Database) :
    db.Related Entity.Notes (markForeignKey name e db) := by
  unfold markForeignKey
  split
  · exact notes_modifyEntity (f := fun e => { e with containsForeignKey := true }) name
      (fun e => ⟨{ Entity.Informed.refl e with frame := rfl }, fun _ => rfl⟩) db
  · exact .refl Entity.Notes.refl db

end Finalization

def Database.ReferrersSettled (name : String) (db : Database) : Prop :=
  ∀ e, db.entity? name = some e →
    (∀ r ∈ e.relations, ∃ g, Finalization.registrationOf db e r = .ok g ∧ g.Noted db) ∧
      (Finalization.keepsKeyInRelation e = true → e.containsForeignKey = true)

namespace Finalization

variable {g : Registration}

theorem registrationOf_of_recalls (h : db.Related Entity.Recalls db') (he : e.SameNames e')
    (hg : registrationOf db e r = .ok g) : registrationOf db' e' r = .ok g := by
  have hn (x y : Entity) (hxy : x.Recalls y) := hxy.sameNames
  obtain ⟨foreign, hf, hfields, rfl⟩ := registrationOf_eq_ok hg
  obtain ⟨foreign', hf', hx⟩ := Database.Related.entity? hn h hf
  have hcheck : checkForeignFields e' foreign' r = .ok () := by
    unfold checkForeignFields
    rw [List.find?_eq_none.2 fun name hm => by simp [hx.hasField_eq, hfields name hm]]
  have hforeign : foreignOf db' e' r = .ok foreign' := by simp [foreignOf, hf']
  refine except_bind_eq_ok_iff.2 ⟨foreign', hforeign, except_bind_eq_ok_iff.2 ⟨(), hcheck, ?_⟩⟩
  rw [he.1, hx.sameNames.1]

theorem referrersSettled_of_recalls (h : db.Related Entity.Recalls db') (hs : db.ReferrersSettled name) :
    db'.ReferrersSettled name := by
  intro e' he'
  obtain ⟨e, he, hx⟩ := Database.Related.entity?' (fun _ _ h => h.sameNames) h he'
  obtain ⟨hrelations, hkey⟩ := hs e he
  refine ⟨fun r hr => ?_, fun hk => hx.containsForeignKey (hkey (hx.keepsKeyInRelation_eq ▸ hk))⟩
  obtain ⟨g, hg, hnoted⟩ := hrelations r (hx.relations ▸ hr)
  exact ⟨g, registrationOf_of_recalls h hx.sameNames hg, hnoted.of_recalls h⟩

theorem keeps_of_recalls {D : Database → Prop} {x : Edit Database Unit}
    (hx : ∀ db : Database, Keeps (db.Related Entity.Notes) x)
    (hD : ∀ s t : Database, s.Related Entity.Recalls t → D s → D t) : Keeps D x :=
  .of_rel hx (.refl Entity.Notes.refl) fun s t h => hD s t ⟨h.frame, h.entities.imp fun _ _ hn => hn.recalls⟩

theorem notes_registerRelationsOf (name : String) (db : Database) :
    Keeps (db.Related Entity.Notes) (registerRelationsOf name) := by
  have htrans {x y z : Database} (h : x.Related Entity.Notes y) (h' : y.Related Entity.Notes z) :
      x.Related Entity.Notes z :=
    .trans (fun _ _ _ h h' => h.trans h') h h'
  refine .attempt fun s t hs h => ?_
  split at h
  · cases h
    exact hs
  · obtain ⟨gs, -, h⟩ := except_bind_eq_ok_iff.1 h
    cases h
    exact htrans hs (htrans (notes_markForeignKey name _ s) (notes_registerAll gs _))

theorem notes_registerAllRelations (names : List String) (db : Database) :
    Keeps (db.Related Entity.Notes) (registerAllRelations names) := by
  induction names with
  | nil => exact .pure
  | cons name rest ih => exact .bind (notes_registerRelationsOf name db) fun _ => ih

/-- The mark is set first, and no registration takes it away. -/
theorem referrersSettled_registerAll {gs : List Registration} (he : s.entity? name = some e)
    (hgs : Forall₂ (fun r g => registrationOf s e r = .ok g) e.relations gs) :
    (registerAll gs (markForeignKey name e s)).ReferrersSettled name := by
  have hn (x y : Entity) (hxy : x.Recalls y) := hxy.sameNames
  have hx : s.Related Entity.Recalls (registerAll gs (markForeignKey name e s)) := by
    have hnotes := Database.Related.trans (fun _ _ _ h h' => h.trans h') (notes_markForeignKey name e s)
      (notes_registerAll gs _)
    exact ⟨hnotes.frame, hnotes.entities.imp fun _ _ h => h.recalls⟩
  intro e' he'
  obtain ⟨e₀, he₀, hxe⟩ := Database.Related.entity?' hn hx he'
  obtain rfl : e = e₀ := Option.some.inj (he.symm.trans he₀)
  refine ⟨fun r hr => ?_, fun hk => ?_⟩
  · obtain ⟨g, hg, hgr⟩ := FirstMatch.exists_of_mem hgs (hxe.relations ▸ hr)
    exact ⟨g, registrationOf_of_recalls hx hxe.sameNames hgr, noted_registerAll gs _ g hg⟩
  · rw [hxe.keepsKeyInRelation_eq] at hk
    have hmarked : (markForeignKey name e s).entity? name = some { e with containsForeignKey := true } := by
      rw [markForeignKey, if_pos hk,
        Database.entity?_modifyEntity_self (f := fun e => { e with containsForeignKey := true }) fun _ =>
          ⟨rfl, rfl⟩, he]
      rfl
    obtain ⟨e₁, he₁, hx₁⟩ :=
      Database.Related.entity? hn (recalls_registerAll gs (markForeignKey name e s)) hmarked
    obtain rfl : e₁ = e' := Option.some.inj (he₁.symm.trans he')
    exact hx₁.containsForeignKey rfl

theorem markForeignKey_eq_self (he : s.entity? name = some e)
    (hk : keepsKeyInRelation e = true → e.containsForeignKey = true) : markForeignKey name e s = s := by
  unfold markForeignKey
  split
  · rename_i h
    rw [Database.modifyEntity, FirstMatch.modify_eq_self_of_find? he]
    rw [← hk h]
  · rfl

theorem replays_registerRelationsOf (J : Database → Prop) (name : String) :
    Replays J (Database.ReferrersSettled name) (registerRelationsOf name) := by
  refine .attempt (fun s t h => ?_) fun s h => ?_
  · cases he : s.entity? name with
    | none =>
        rw [he] at h
        cases h
        simp [Database.ReferrersSettled, he]
    | some e =>
        rw [he] at h
        obtain ⟨gs, hgs, h⟩ := except_bind_eq_ok_iff.1 h
        obtain rfl := Except.ok.inj h
        exact referrersSettled_registerAll he (mapM_eq_ok_iff.1 hgs)
  · cases he : s.entity? name with
    | none => rfl
    | some e =>
        obtain ⟨hrelations, hkey⟩ := h e he
        obtain ⟨gs, hgs⟩ := exists_mapM fun r hr => (hrelations r hr).imp fun _ hg => hg.1
        have hnoted : ∀ g ∈ gs, g.Noted s := by
          intro g hg
          obtain ⟨r, hr, hgr⟩ := FirstMatch.exists_of_mem' (mapM_eq_ok_iff.1 hgs) hg
          obtain ⟨g', hg', hn⟩ := hrelations r hr
          obtain rfl : g = g' := Except.ok.inj (hgr.symm.trans hg')
          exact hn
        refine except_bind_eq_ok_iff.2 ⟨gs, hgs, ?_⟩
        rw [markForeignKey_eq_self he hkey, registerAll_eq_self hnoted]

theorem replays_registerAllRelations (names : List String) :
    Replays (fun _ => True) (fun db => ∀ name ∈ names, db.ReferrersSettled name)
      (registerAllRelations names) := by
  induction names with
  | nil => exact .imp .pure (by simp)
  | cons name rest ih =>
      have hD : Keeps (Database.ReferrersSettled name) (registerAllRelations rest) :=
        keeps_of_recalls (notes_registerAllRelations rest) fun _ _ h => referrersSettled_of_recalls h
      exact .imp (.bind (replays_registerRelationsOf _ name) ih (fun _ _ => trivial) hD) fun _ =>
        List.forall_mem_cons

end Finalization

end Tablecraft
