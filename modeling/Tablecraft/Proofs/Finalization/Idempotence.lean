import Tablecraft.Proofs.Behavior.Benign
import Tablecraft.Proofs.Finalization.Passes
import Tablecraft.Proofs.Finalization.Sequences

namespace Tablecraft

open List Edit

variable {registry : Registry} {p : Platform} {db db' s t a : Database} {fault : Fault} {names : List String}

namespace Finalization

theorem sustains_registerAllRelations (limit : Nat) (names : List String) (db : Database) :
    Keeps (db.Sustains limit) (registerAllRelations names) := by
  intro s hs
  have h := notes_registerAllRelations names s s (.refl Entity.Notes.refl s)
  exact hs.trans (Database.Informed.sustains ⟨h.frame, h.entities.imp fun _ _ hn => hn.toInformed⟩)

structure EntitiesSettled (p : Platform) (heavy : Bool) (names : List String) (db : Database) : Prop where
  entities : ∀ name ∈ names, db.SettledFor p.maxIdentifierLength heavy name
  referrers : ∀ name ∈ names, db.ReferrersSettled name

def settleEntities (p : Platform) (heavy : Bool) (names : List String) : Edit Database Unit :=
  settleAll p heavy names >>= fun _ => registerAllRelations names

theorem passes_eq (p : Platform) (s : Database) :
    passes p s = (settleEntities p s.heavyIndexing s.entityNames >>= fun _ => dialectPass p s.entityNames) s := by
  rw [settleEntities, bind_assoc]
  rfl

theorem sustains_settleEntities (p : Platform) (heavy : Bool) (names : List String) (db : Database) :
    Keeps (db.Sustains p.maxIdentifierLength) (settleEntities p heavy names) :=
  .bind (sustains_settleAll p heavy names db) fun _ => sustains_registerAllRelations _ names db

theorem replays_settleEntities (p : Platform) (heavy : Bool) (names : List String) :
    Replays Database.Regular (EntitiesSettled p heavy names) (settleEntities p heavy names) := by
  have hregister := replays_registerAllRelations names
  have hJ : Keeps Database.Regular (settleAll p heavy names) :=
    keeps_of_sustains _ (sustains_settleAll p heavy names) fun _ _ h => h.regular
  have hD : Keeps (fun db => ∀ name ∈ names, db.SettledFor p.maxIdentifierLength heavy name)
      (registerAllRelations names) :=
    keeps_of_sustains p.maxIdentifierLength (sustains_registerAllRelations _ names) fun _ _ h hs name hn =>
      h.settledFor (hs name hn)
  refine .imp (.bind (replays_settleAll p heavy names)
    ⟨hregister.establishes, fun _ _ _ _ h => hregister.repeats trivial h⟩ hJ hD) fun db => ?_
  exact ⟨fun h => ⟨h.entities, h.referrers⟩, fun ⟨he, hr⟩ => ⟨he, hr⟩⟩

theorem sustains_passes (p : Platform) (s : Database) :
    s.Sustains p.maxIdentifierLength ((passes p).after s) := by
  have h : Keeps (s.Sustains p.maxIdentifierLength) _ :=
    .bind (sustains_settleEntities p s.heavyIndexing s.entityNames s) fun _ =>
      sustains_dialectPass _ p s.entityNames s
  have hx := h s (.refl _ s)
  rwa [Edit.after, ← passes_eq] at hx

theorem EntitiesSettled.of_dialectPass {heavy : Bool} (h : EntitiesSettled p heavy names s)
    (ht : dialectPass p names s = .ok () t) : EntitiesSettled p heavy names t := by
  have hx := (sustains_dialectPass p.maxIdentifierLength p names s).of_ok ht (.refl _ s)
  have hd := (keeps_dialectPass p names).of_ok ht (Database.Related.refl Entity.Decorated.refl s)
  exact ⟨fun name hn => hx.settledFor (h.entities name hn), fun name hn =>
    referrersSettled_of_recalls ⟨hd.frame, hd.entities.imp fun _ _ h => h.recalls⟩ (h.referrers name hn)⟩

theorem entitiesSettled_of_passes (h : passes p s = .ok () t) :
    EntitiesSettled p s.heavyIndexing s.entityNames t := by
  rw [passes_eq] at h
  obtain ⟨_, u, hu, ht⟩ := bind_eq_ok_iff.1 h
  exact ((replays_settleEntities p s.heavyIndexing s.entityNames).establishes.done hu).of_dialectPass ht

theorem passes_of_ok (hrel : s.Relational p) (h : passes p s = .ok () t) : passes p t = .ok () t := by
  have hsettled := entitiesSettled_of_passes h
  have hx := sustains_passes p s
  rw [after_of_ok h] at hx
  rw [passes_eq] at h ⊢
  rw [hx.heavyIndexing_eq, hx.entityNames_eq]
  obtain ⟨_, u, hu, ht⟩ := bind_eq_ok_iff.1 h
  have hux := (sustains_settleEntities p s.heavyIndexing s.entityNames s).of_ok hu (.refl _ s)
  obtain ⟨t', ht', hagain⟩ := dialectPass_replays (hux.relational hrel) s.entityNames
  obtain rfl : t' = t := by
    rw [ht] at ht'
    cases ht'
    rfl
  have hsettle := (replays_settleEntities p s.heavyIndexing s.entityNames).establishes
  exact bind_eq_ok_iff.2 ⟨(), t', hsettle.idle hsettled, hagain⟩

theorem passes_of_error (hr : s.Regular) (hrel : s.Relational p) (h : passes p s = .error fault t) :
    passes p t = .error fault t := by
  have hx := sustains_passes p s
  rw [after_of_error h] at hx
  rw [passes_eq] at h ⊢
  rw [hx.heavyIndexing_eq, hx.entityNames_eq]
  rcases bind_eq_error_iff.1 h with h | ⟨u, hu, ht⟩
  · exact bind_eq_of_error ((replays_settleEntities p s.heavyIndexing s.entityNames).repeats hr h)
  · have hux := (sustains_settleEntities p s.heavyIndexing s.entityNames s).of_ok hu (.refl _ s)
    obtain ⟨t', ht', -⟩ := dialectPass_replays (hux.relational hrel) s.entityNames
    rw [ht] at ht'
    cases ht'

end Finalization

theorem Database.Stages.passes {u : Database} (h : Stages registry p db a u t db') :
    Finalization.passes p a = .ok () db' :=
  bind_eq_ok_iff.2 ⟨_, u, h.settled, bind_eq_ok_iff.2 ⟨_, t, h.registered, h.dialect⟩⟩

theorem Database.Stages.constrained {u : Database} {e : Entity} (h : Stages registry p db a u t db')
    (he : e ∈ db'.entities) (hfound : db'.entity? e.name = some e) :
    e.Constrained p.maxIdentifierLength a.heavyIndexing := by
  have hx := Finalization.sustains_passes p a
  rw [after_of_ok h.passes] at hx
  have hn : e.name ∈ a.entityNames := by
    rw [← hx.entityNames_eq]
    exact List.mem_map_of_mem he
  exact ((Finalization.entitiesSettled_of_passes h.passes).entities e.name hn).constrained e hfound

/-- Finalization leaves the switch of the database alone, and settles the constraints of every entity by it.
-/
theorem Database.constrained_of_finalize (hr : registry.Additive) (ha : db.Addressed)
    (h : (Database.finalize registry p).result db = .ok db') :
    db'.heavyIndexing = db.heavyIndexing ∧
      ∀ e ∈ db'.entities, e.Constrained p.maxIdentifierLength db.heavyIndexing := by
  obtain ⟨a, u, t, hs⟩ := Database.exists_stages h
  have hext := (Database.keeps_applyBehaviors hr).of_ok hs.applied (.refl db)
  have hx := Finalization.sustains_passes p a
  rw [after_of_ok hs.passes] at hx
  have haddressed : db'.Addressed :=
    Database.Related.addressed (fun _ _ h => h.sameNames) hx (hext.addressed ha)
  have hheavy : a.heavyIndexing = db.heavyIndexing := by rw [hext.frame]
  rw [← hheavy]
  exact ⟨hx.heavyIndexing_eq, fun e he => hs.constrained he (haddressed.entity?_eq he)⟩

theorem Database.Extends.relational (h : db.Extends a) (hrel : db.Relational p) : a.Relational p := by
  intro hp e he
  obtain ⟨e₀, he₀, hx⟩ := FirstMatch.exists_of_mem' h.entities he
  have hv : e.vendor = e₀.vendor := by rw [hx.frame]
  rw [p.usesForeignKeyEngine_of_vendor hv]
  exact hrel hp e₀ he₀

/-- Behaviors that have run through find nothing to do after the passes, however these end. -/
theorem applyBehaviors_after_passes (hm : db.Mild registry) (h : Database.applyBehaviors registry db = .ok () a)
    (p : Platform) :
    Database.applyBehaviors registry ((Finalization.passes p).after a) =
      .ok () ((Finalization.passes p).after a) := by
  have htamed := tamed_applyBehaviors hm
  rw [after_of_ok h] at htamed
  have hx := Finalization.sustains_passes p a
  exact applyBehaviors_of_done (hx.mild (htamed.mild hm))
    (hx.behaviorsDone (behaviorsDone_of_applyBehaviors hm h))

theorem finalize_of_ok (hm : db.Mild registry) (hrel : db.Relational p)
    (h : Database.finalize registry p db = .ok () db') : Database.finalize registry p db' = .ok () db' := by
  obtain ⟨_, a, ha, h⟩ := bind_eq_ok_iff.1 h
  have htamed := tamed_applyBehaviors hm
  rw [after_of_ok ha] at htamed
  have hbehaviors := applyBehaviors_after_passes hm ha p
  rw [after_of_ok h] at hbehaviors
  exact bind_eq_ok_iff.2 ⟨(), db', hbehaviors, Finalization.passes_of_ok (htamed.extension.relational hrel) h⟩

/-- A finalization that ended changes nothing when it is run again. -/
theorem finalize_idempotent (hb : db.Benign registry) (hrel : db.Relational p)
    (h : (Database.finalize registry p).result db = .ok db') :
    (Database.finalize registry p).result db' = .ok db' := by
  rw [result_eq_ok_iff] at h ⊢
  exact finalize_of_ok hb.mild hrel h

theorem finalize_idempotent_library : ∃ db db', LoadedFrom .builtins libraryDocument db ∧
    (Database.finalize .builtins { dialect := .postgres }).result db = .ok db' ∧
    (Database.finalize .builtins { dialect := .postgres }).result db' = .ok db' := by
  have hf : (libraryDocument.finalized? { dialect := .postgres }).isSome = true := by decide +kernel
  obtain ⟨db', hf⟩ := Option.isSome_iff_exists.1 hf
  obtain ⟨db, hl, hr⟩ := SchemaDocument.loadedFrom_of_finalized? hf
  exact ⟨db, db', hl, hr, finalize_idempotent db.benign_builtins (fun hp => by cases hp) hr⟩

end Tablecraft
