import Tablecraft.Proofs.Behavior.Additive
import Tablecraft.Proofs.Behavior.Scheduling
import Tablecraft.Proofs.Finalization.Sustained

namespace Tablecraft

open List Edit

variable {registry : Registry} {behaviors : List Behavior} {tables : String → Option String} {db s t : Database}
  {e e' e'' : Entity} {limit : Nat}

structure Entity.Enriches (tables : String → Option String) (e e' : Entity) : Prop where
  extension : e.Extends tables e'
  behaviors : e'.behaviors = e.behaviors

theorem Entity.Enriches.refl (e : Entity) : e.Enriches tables e := ⟨.refl e, rfl⟩

theorem Entity.Enriches.trans (h : e.Enriches tables e') (h' : e'.Enriches tables e'') : e.Enriches tables e'' :=
  ⟨h.extension.trans h'.extension, h'.behaviors.trans h.behaviors⟩

theorem Database.Extends.enrich (h : db.Extends s) (h' : s.Related (Entity.Enriches s.tableOf?) t) :
    db.Extends t :=
  Database.Related.trans (fun _ _ _ hxy hyz => hxy.trans (h.tableOf?_eq ▸ hyz.extension)) h h'

structure Effect.Mild (effect : Effect) : Prop where
  onDatabase : effect.onDatabase = fun b => Edit.succeed (Database.propagate b)
  onEntity (b : Behavior) (name : String) (db : Database) :
    Keeps (db.Related (Entity.Enriches db.tableOf?)) (effect.onEntity b name)

/-- The effect spreads over the entities, where it adds the columns for times or does nothing. -/
structure Effect.Benign (effect : Effect) : Prop where
  onDatabase : effect.onDatabase = fun b => Edit.succeed (Database.propagate b)
  onEntity : effect.onEntity = Timestampable.onEntity ∨ effect.onEntity = fun _ _ => pure ()

theorem Timestampable.enriches_addColumns (b : Behavior) (columns : List (String × String)) (e₀ : Entity) :
    Keeps (e₀.Enriches tables) (addColumns b columns) := by
  refine keeps_addColumns_of (fun e e' f hf h ha => h.trans ⟨.addField hf ha, ?_⟩) b columns
  obtain ⟨-, -, rfl⟩ := Entity.addField_eq_ok ha
  rfl

theorem Timestampable.enriches_onEntity (b : Behavior) (name : String) (db : Database) :
    Keeps (db.Related (Entity.Enriches db.tableOf?)) (onEntity b name) :=
  keeps_onEntity_of (enriches_addColumns b columns) name db

theorem Effect.Benign.mild {effect : Effect} (h : effect.Benign) : effect.Mild where
  onDatabase := h.onDatabase
  onEntity b name db := by
    rcases h.onEntity with h | h
    · rw [h]
      exact Timestampable.enriches_onEntity b name db
    · rw [h]
      exact .pure

theorem Registry.benign_builtins (b : Behavior) : (builtins.effectOf b).Benign := by
  rcases effectOf_builtins b with h | h
  · rw [h]
    exact ⟨rfl, .inl rfl⟩
  · rw [h]
    exact ⟨rfl, .inr rfl⟩

structure Database.Mild (registry : Registry) (db : Database) : Prop where
  behaviors : ∀ b ∈ db.behaviors, (registry.effectOf b).Mild
  entities : ∀ e ∈ db.entities, ∀ b ∈ e.behaviors, (registry.effectOf b).Mild

structure Database.Benign (registry : Registry) (db : Database) : Prop where
  behaviors : ∀ b ∈ db.behaviors, (registry.effectOf b).Benign
  entities : ∀ e ∈ db.entities, ∀ b ∈ e.behaviors, (registry.effectOf b).Benign

theorem Database.Benign.mild (h : db.Benign registry) : db.Mild registry :=
  ⟨fun b hb => (h.behaviors b hb).mild, fun e he b hb => (h.entities e he b hb).mild⟩

theorem Database.benign_builtins (db : Database) : db.Benign Registry.builtins :=
  ⟨fun b _ => Registry.benign_builtins b, fun _ _ b _ => Registry.benign_builtins b⟩

structure Entity.Tame (registry : Registry) (behaviors : List Behavior) (e : Entity) : Prop where
  mild : ∀ b ∈ e.behaviors, (registry.effectOf b).Mild
  spread : ∀ b ∈ behaviors, e.hasBehavior b.id = true

structure Database.Tamed (registry : Registry) (behaviors : List Behavior) (db s : Database) : Prop where
  extension : db.Extends s
  entities : ∀ e ∈ s.entities, e.Tame registry behaviors

theorem Entity.hasBehavior_iff {id : String} : e.hasBehavior id = true ↔ id ∈ e.behaviors.map (·.id) := by
  simp [hasBehavior]

theorem Entity.Tame.congr (h : e.Tame registry behaviors) (hb : e'.behaviors = e.behaviors) :
    e'.Tame registry behaviors := by
  refine ⟨hb ▸ h.mild, fun b hm => ?_⟩
  rw [hasBehavior, hb]
  exact h.spread b hm

theorem hasBehavior_propagateTo (b : Behavior) (e : Entity) (id : String) :
    (Database.propagateTo b e).hasBehavior id = true ↔ e.hasBehavior id = true ∨ id = b.id := by
  unfold Database.propagateTo
  split
  · rename_i hb
    refine ⟨.inl, fun h => h.elim (fun h => h) ?_⟩
    rintro rfl
    exact hb
  · rw [Entity.hasBehavior_iff, Entity.hasBehavior_iff, Entity.attachBehavior, List.map_append, List.mem_append,
      List.map_singleton, List.mem_singleton]
    rfl

theorem tame_propagateTo {b : Behavior} (hb : (registry.effectOf b).Mild) (h : e.Tame registry behaviors) :
    (Database.propagateTo b e).Tame registry (b :: behaviors) := by
  refine ⟨Database.forall_behaviors_propagateTo h.mild hb, fun c hc => ?_⟩
  rw [hasBehavior_propagateTo]
  rcases List.mem_cons.1 hc with rfl | hc
  · exact .inr rfl
  · exact .inl (h.spread c hc)

theorem tamed_propagate {b : Behavior} (hb : (registry.effectOf b).Mild) (h : db.Tamed registry behaviors s) :
    db.Tamed registry (b :: behaviors) (Database.propagate b s) := by
  refine ⟨Database.extends_propagate h.extension b, fun e he => ?_⟩
  obtain ⟨e₀, he₀, rfl⟩ := List.mem_map.1 he
  exact tame_propagateTo hb (h.entities e₀ he₀)

theorem exists_applyToDatabase {own spread : List Behavior} (hb : ∀ b ∈ own, (registry.effectOf b).Mild)
    (h : db.Tamed registry spread s) :
    ∃ u, Schedule.applyToDatabase registry own s = .ok () u ∧ db.Tamed registry (own ++ spread) u := by
  induction own generalizing s spread with
  | nil => exact ⟨s, rfl, h⟩
  | cons b rest ih =>
      obtain ⟨hb, hrest⟩ := List.forall_mem_cons.1 hb
      obtain ⟨u, hu, ht⟩ := ih hrest (tamed_propagate hb h)
      refine ⟨u, bind_eq_ok_iff.2 ⟨(), Database.propagate b s, by rw [hb.onDatabase]; rfl, hu⟩, ht.extension, ?_⟩
      intro e he
      refine ⟨(ht.entities e he).mild, fun c hc => (ht.entities e he).spread c ?_⟩
      simp only [List.cons_append, List.mem_cons, List.mem_append] at hc ⊢
      tauto

theorem propagate_eq_self {b : Behavior} (h : ∀ e ∈ s.entities, e.hasBehavior b.id = true) :
    Database.propagate b s = s := by
  have hself : s.entities.map (Database.propagateTo b) = s.entities := by
    refine (List.map_congr_left fun e he => ?_).trans (List.map_id' _)
    rw [Database.propagateTo, if_pos (h e he)]
  rw [Database.propagate, hself]

theorem applyToDatabase_eq_self (hb : ∀ b ∈ behaviors, (registry.effectOf b).Mild)
    (h : ∀ e ∈ s.entities, ∀ b ∈ behaviors, e.hasBehavior b.id = true) :
    Schedule.applyToDatabase registry behaviors s = .ok () s := by
  induction behaviors with
  | nil => rfl
  | cons b rest ih =>
      obtain ⟨hb, hrest⟩ := List.forall_mem_cons.1 hb
      refine bind_eq_ok_iff.2 ⟨(), s, ?_, ih hrest fun e he c hc => h e he c (List.mem_cons_of_mem _ hc)⟩
      have hself := propagate_eq_self fun e he => h e he b (by simp)
      simp only [hb.onDatabase, Edit.succeed, hself]

theorem tame_applyAt {position : Nat} (h : e.Tame registry behaviors) :
    Entity.Tame registry behaviors { e with behaviors := Schedule.applyAt position e.behaviors } := by
  rw [Schedule.applyAt_eq_modify]
  have hids : (e.behaviors.modify position fun b => { b with applied := true }).map (·.id) =
      e.behaviors.map (·.id) := by
    refine List.ext_getElem? fun n => ?_
    rw [List.getElem?_map, List.getElem?_map, List.getElem?_modify]
    cases e.behaviors[n]? <;> simp
    split <;> rfl
  refine ⟨fun b hb => ?_, fun b hb => ?_⟩
  · obtain ⟨c, hc, rfl | rfl⟩ := FirstMatch.mem_listModify hb
    · exact h.mild b hc
    · exact h.mild c hc
  · rw [Entity.hasBehavior_iff, hids, ← Entity.hasBehavior_iff]
    exact h.spread b hb

theorem tamed_markApplied (slot : Schedule.Slot) (h : db.Tamed registry behaviors s) :
    db.Tamed registry behaviors (Schedule.markApplied slot s) := by
  refine ⟨Database.Related.modifyEntityAt h.extension fun _ _ _ _ hx =>
    hx.trans { Entity.Extends.refl _ with frame := rfl }, fun e he => ?_⟩
  obtain ⟨e₀, he₀, rfl | rfl⟩ := FirstMatch.mem_listModify he
  · exact h.entities e he₀
  · exact tame_applyAt (h.entities e₀ he₀)

theorem Database.Tamed.enrich (h : db.Tamed registry behaviors s)
    (h' : s.Related (Entity.Enriches s.tableOf?) t) : db.Tamed registry behaviors t := by
  refine ⟨h.extension.enrich h', fun e' he' => ?_⟩
  obtain ⟨e, he, hx⟩ := FirstMatch.exists_of_mem' h'.entities he'
  exact (h.entities e he).congr hx.behaviors

theorem keeps_tamed_applySlot (slot : Schedule.Slot) :
    Keeps (db.Tamed registry behaviors) (Schedule.applySlot registry slot) := by
  intro s hs
  cases ho : Schedule.occupant? s slot with
  | none => simpa [Schedule.applySlot, Edit.after, ho] using hs
  | some p =>
      obtain ⟨e, b⟩ := p
      obtain ⟨e₀, he, ho'⟩ := Option.bind_eq_some_iff.1 ho
      obtain ⟨b₀, hb, heq⟩ := Option.bind_eq_some_iff.1 ho'
      obtain ⟨rfl, rfl⟩ := Prod.mk.inj (Option.some.inj heq)
      have hmild := (hs.entities e₀ (List.mem_of_getElem? he)).mild b₀ (List.mem_of_getElem? hb)
      have hafter := (tamed_markApplied slot hs).enrich
        (hmild.onEntity { b₀ with applied := true } e₀.name _ _ (.refl Entity.Enriches.refl _))
      simpa only [Schedule.applySlot, Edit.after, ho] using hafter

structure Database.BehaviorsDone (db : Database) : Prop where
  spread : ∀ e ∈ db.entities, ∀ b ∈ db.behaviors, e.hasBehavior b.id = true
  applied : ∀ e ∈ db.entities, ∀ b ∈ e.behaviors, b.applied = true

theorem Database.Mild.tamed (hb : db.Mild registry) : db.Tamed registry [] db :=
  ⟨.refl db, fun e he => ⟨hb.entities e he, by simp⟩⟩

/-- However the run of mild behaviors ends, it has extended the database and kept it mild. -/
theorem tamed_applyBehaviors (hb : db.Mild registry) :
    db.Tamed registry db.behaviors ((Database.applyBehaviors registry).after db) := by
  obtain ⟨u, hu, ht⟩ := exists_applyToDatabase hb.behaviors hb.tamed
  rw [List.append_nil] at ht
  simpa [Database.applyBehaviors, Edit.after, hu] using Schedule.keeps_applyPending keeps_tamed_applySlot _ u ht

theorem Database.Tamed.mild (h : db.Tamed registry behaviors s) (hb : db.Mild registry) : s.Mild registry := by
  refine ⟨?_, fun e he => (h.entities e he).mild⟩
  rw [h.extension.frame]
  exact hb.behaviors

theorem behaviorsDone_of_applyBehaviors (hb : db.Mild registry)
    (h : Database.applyBehaviors registry db = .ok () t) :
    t.BehaviorsDone := by
  have ht := tamed_applyBehaviors hb
  rw [after_of_ok h] at ht
  refine ⟨fun e he b hm => ?_, ?_⟩
  · rw [ht.extension.frame] at hm
    exact (ht.entities e he).spread b hm
  · obtain ⟨u, hu, -⟩ := exists_applyToDatabase hb.behaviors hb.tamed
    simp only [Database.applyBehaviors, hu] at h
    exact Schedule.pending_eq_nil_iff.1 (Schedule.pending_of_applyPending h)

theorem applyBehaviors_of_done (hb : db.Mild registry) (h : db.BehaviorsDone) :
    Database.applyBehaviors registry db = .ok () db := by
  have hnone : Schedule.next? db = none := Schedule.next?_eq_none_iff.2 (Schedule.pending_eq_nil_iff.2 h.applied)
  simp [Database.applyBehaviors, applyToDatabase_eq_self hb.behaviors h.spread,
    Schedule.applyPending_of_none hnone]

namespace Database.Benign

theorem propagate {b : Behavior} (hb : (registry.effectOf b).Benign) (h : s.Benign registry) :
    (Database.propagate b s).Benign registry := by
  refine ⟨h.behaviors, fun e he => ?_⟩
  obtain ⟨x, hx, rfl⟩ := List.mem_map.1 he
  exact forall_behaviors_propagateTo (h.entities x hx) hb

theorem markApplied (slot : Schedule.Slot) (h : s.Benign registry) :
    (Schedule.markApplied slot s).Benign registry := by
  refine ⟨h.behaviors, fun e he b hb => ?_⟩
  obtain ⟨x, hx, rfl | rfl⟩ := FirstMatch.mem_listModify he
  · exact h.entities e hx b hb
  · rw [Schedule.applyAt_eq_modify] at hb
    obtain ⟨c, hc, rfl | rfl⟩ := FirstMatch.mem_listModify hb
    · exact h.entities x hx b hc
    · exact h.entities x hx c hc

theorem enrich (h : s.Benign registry) (hx : s.Related (Entity.Enriches s.tableOf?) t) : t.Benign registry := by
  refine ⟨by rw [hx.frame]; exact h.behaviors, fun e' he' => ?_⟩
  obtain ⟨e, he, hee⟩ := FirstMatch.exists_of_mem' hx.entities he'
  rw [hee.behaviors]
  exact h.entities e he

variable {P : Database → Prop} (hspread : ∀ s b, P s → P (Database.propagate b s))
  (hmark : ∀ s slot, P s → P (Schedule.markApplied slot s))
  (hstamp : ∀ b name, Keeps P (Timestampable.onEntity b name))

include hmark hstamp

theorem keeps_applySlot (slot : Schedule.Slot) :
    Keeps (fun s => s.Benign registry ∧ P s) (Schedule.applySlot registry slot) := by
  rintro s ⟨hb, hP⟩
  cases ho : Schedule.occupant? s slot with
  | none => simpa [Schedule.applySlot, Edit.after, ho] using And.intro hb hP
  | some p =>
      obtain ⟨e, b⟩ := p
      obtain ⟨e₀, he, ho'⟩ := Option.bind_eq_some_iff.1 ho
      obtain ⟨b₀, hbehavior, heq⟩ := Option.bind_eq_some_iff.1 ho'
      obtain ⟨rfl, rfl⟩ := Prod.mk.inj (Option.some.inj heq)
      have heffect := hb.entities e₀ (List.mem_of_getElem? he) b₀ (List.mem_of_getElem? hbehavior)
      have hmarked : (Schedule.markApplied slot s).Benign registry ∧ P (Schedule.markApplied slot s) :=
        ⟨hb.markApplied slot, hmark s slot hP⟩
      have hafter : Keeps (fun s => s.Benign registry ∧ P s)
          ((registry.effectOf b₀).onEntity { b₀ with applied := true } e₀.name) := by
        rintro u ⟨hu, hPu⟩
        refine ⟨hu.enrich (heffect.mild.onEntity _ e₀.name u u (.refl Entity.Enriches.refl u)), ?_⟩
        rcases heffect.onEntity with h | h
        · rw [h]
          exact hstamp _ e₀.name u hPu
        · rw [h]
          exact hPu
      simpa only [Schedule.applySlot, Edit.after, ho] using hafter _ hmarked

include hspread

/-- A run keeps what spreading a behavior, marking it and adding the columns for times keep. -/
theorem keeps_applyBehaviors : Keeps (fun s => s.Benign registry ∧ P s) (Database.applyBehaviors registry) := by
  refine Schedule.keeps_applyBehaviors (fun s hs b hb => ?_) (keeps_applySlot hmark hstamp)
  have heffect := hs.1.behaviors b hb
  rw [heffect.onDatabase]
  exact .succeed fun t ht => ⟨ht.1.propagate heffect, hspread t b ht.2⟩

end Database.Benign

namespace Database.Sustains

theorem mild (h : s.Sustains limit t) (hb : s.Mild registry) : t.Mild registry := by
  refine ⟨by rw [h.frame]; exact hb.behaviors, fun e' he' => ?_⟩
  obtain ⟨e, he, hx⟩ := FirstMatch.exists_of_mem' h.entities he'
  rw [hx.behaviors]
  exact hb.entities e he

theorem behaviorsDone (h : s.Sustains limit t) (hd : s.BehaviorsDone) : t.BehaviorsDone := by
  refine ⟨fun e' he' b hb => ?_, fun e' he' => ?_⟩
  · obtain ⟨e, he, hx⟩ := FirstMatch.exists_of_mem' h.entities he'
    rw [h.frame] at hb
    rw [Entity.hasBehavior, hx.behaviors]
    exact hd.spread e he b hb
  · obtain ⟨e, he, hx⟩ := FirstMatch.exists_of_mem' h.entities he'
    rw [hx.behaviors]
    exact hd.applied e he

end Database.Sustains

end Tablecraft
