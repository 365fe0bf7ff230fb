import Tablecraft.Behavior.Schedule
import Tablecraft.Behavior.Timestampable
import Tablecraft.Proofs.Model.ExtensionSteps

namespace Tablecraft

open List Edit

variable {tables : String → Option String} {e₀ : Entity} {db : Database}

structure Effect.Additive (effect : Effect) : Prop where
  onDatabase (b : Behavior) (db : Database) : Keeps db.Extends (effect.onDatabase b)
  onEntity (b : Behavior) (name : String) (db : Database) : Keeps db.Extends (effect.onEntity b name)

theorem Database.propagateTo_frame (b : Behavior) (e : Entity) :
    propagateTo b e = { e with behaviors := (propagateTo b e).behaviors } := by
  unfold propagateTo
  split <;> rfl

theorem Database.forall_behaviors_propagateTo {P : Behavior → Prop} {b : Behavior} {e : Entity}
    (h : ∀ c ∈ e.behaviors, P c) (hb : P { b.fresh with entity := some e.name }) :
    ∀ c ∈ (propagateTo b e).behaviors, P c := by
  unfold propagateTo
  split
  · exact h
  · exact List.forall_mem_append.2 ⟨h, List.forall_mem_singleton.2 hb⟩

theorem Database.extends_propagate {s : Database} (hs : db.Extends s) (b : Behavior) :
    db.Extends (Database.propagate b s) := by
  refine Database.Related.map hs fun e₀ e he => he.trans ?_
  rw [Database.propagateTo_frame b e]
  exact { Entity.Extends.refl e with frame := rfl }

theorem Effect.additive_default : Effect.Additive {} where
  onDatabase b _ := .succeed fun _ hs => Database.extends_propagate hs b
  onEntity _ _ _ := .pure

namespace Timestampable

theorem keeps_addColumns_of {P : Entity → Prop} (hP : ∀ e e' f, f.Plain → P e → e.addField f = .ok e' → P e')
    (b : Behavior) (columns : List (String × String)) : Keeps P (addColumns b columns) := by
  induction columns with
  | nil => exact .pure
  | cons column rest ih =>
      refine .bind (.attempt fun e e' h ha => ?_) fun _ => ih
      split at ha
      · cases ha
        exact h
      · split at ha
        · cases ha
          exact h
        · exact hP e e' _ (by rfl) h ha

theorem keeps_onEntity_of {R : Entity → Entity → Prop} {b : Behavior}
    (hR : ∀ e₀, Keeps (R e₀) (addColumns b columns))
    (name : String) (db : Database) : Keeps (db.Related R) (onEntity b name) := by
  intro s hs
  by_cases hn : s.hasEntity name = true
  · have h := Database.Related.keeps_editEntity name hR s hs
    simpa [onEntity, Edit.after, hn] using h
  · simpa [onEntity, Edit.after, hn] using hs

theorem keeps_addColumns (b : Behavior) (columns : List (String × String)) :
    Keeps (e₀.Extends tables) (addColumns b columns) :=
  keeps_addColumns_of (fun _ _ _ hf h ha => h.trans (.addField hf ha)) b columns

theorem additive_effect : effect.Additive where
  onDatabase b _ := .succeed fun _ hs => Database.extends_propagate hs b
  onEntity b name db := keeps_onEntity_of (fun _ => keeps_addColumns b columns) name db

end Timestampable

def Registry.Additive (registry : Registry) : Prop := ∀ b, (registry.effectOf b).Additive

structure Effect.Respects (P : Database → Prop) (effect : Effect) : Prop where
  onDatabase (b : Behavior) : Keeps P (effect.onDatabase b)
  onEntity (b : Behavior) (name : String) : Keeps P (effect.onEntity b name)

def Registry.Respects (registry : Registry) (P : Database → Prop) : Prop := ∀ b, (registry.effectOf b).Respects P

/-- What extensions keep, additive effects respect. -/
theorem Registry.Additive.respects {registry : Registry} (hr : registry.Additive) {P : Database → Prop}
    (hx : ∀ s t : Database, P s → s.Extends t → P t) : registry.Respects P := fun b =>
  { onDatabase := fun c s hs => hx s _ hs ((hr b).onDatabase c s s (.refl s))
    onEntity := fun c name s hs => hx s _ hs ((hr b).onEntity c name s s (.refl s)) }

theorem Registry.effectOf_builtins (b : Behavior) :
    builtins.effectOf b = Timestampable.effect ∨ builtins.effectOf b = {} := by
  have hg (key : String) : builtins.get? key = some Timestampable.effect ∨ builtins.get? key = none := by
    rw [builtins, register, NameMap.get?_insert]
    split
    · exact .inl rfl
    · exact .inr rfl
  rw [effectOf]
  cases b.effect with
  | none => exact .inr rfl
  | some key =>
      rcases hg key with h | h
      · exact .inl (by rw [Option.bind_some, h, Option.getD_some])
      · exact .inr (by rw [Option.bind_some, h, Option.getD_none])

theorem Registry.additive_builtins : builtins.Additive := by
  intro b
  rcases effectOf_builtins b with h | h
  · rw [h]
    exact Timestampable.additive_effect
  · rw [h]
    exact Effect.additive_default

namespace Schedule

variable {registry : Registry}

variable {P : Database → Prop}

/-- What marking a behavior keeps, and what its effect keeps, its application keeps. -/
theorem keeps_applySlot_of (hm : ∀ s slot, P s → P (markApplied slot s))
    (he : ∀ (b : Behavior) (name : String),
      Keeps P ((registry.effectOf b).onEntity { b with applied := true } name))
    (slot : Slot) : Keeps P (applySlot registry slot) := by
  intro s hs
  cases ho : occupant? s slot with
  | none => simpa [applySlot, Edit.after, ho] using hs
  | some p =>
      have h := he p.2 p.1.name _ (hm s slot hs)
      simpa only [applySlot, Edit.after, ho] using h

theorem extends_markApplied {s : Database} (hs : db.Extends s) (slot : Slot) : db.Extends (markApplied slot s) :=
  Database.Related.modifyEntityAt hs fun _ _ _ _ h => h.trans { Entity.Extends.refl _ with frame := rfl }

theorem keeps_applySlot (hr : registry.Additive) (slot : Slot) :
    Keeps db.Extends (applySlot registry slot) :=
  keeps_applySlot_of (P := db.Extends) (fun _ slot hs => extends_markApplied hs slot)
    (fun b name => (hr b).onEntity { b with applied := true } name db) slot

theorem keeps_applyPending (h : ∀ slot, Keeps P (applySlot registry slot)) (limit : Nat) :
    Keeps P (applyPending registry limit) := by
  induction limit with
  | zero =>
      intro s hs
      cases hn : next? s <;> simpa [applyPending, Edit.after, hn] using hs
  | succ limit ih =>
      intro s hs
      cases hn : next? s with
      | none => simpa [applyPending, Edit.after, hn] using hs
      | some slot =>
          have hu := h slot s hs
          cases ha : applySlot registry slot s with
          | error fault u => simpa [applyPending, Edit.after, hn, ha] using hu
          | ok a u =>
              rw [after_of_ok ha] at hu
              simpa [applyPending, Edit.after, hn, ha] using ih u hu

theorem keeps_applyToDatabase {behaviors : List Behavior}
    (h : ∀ b ∈ behaviors, Keeps P ((registry.effectOf b).onDatabase b)) :
    Keeps P (applyToDatabase registry behaviors) := by
  induction behaviors with
  | nil => exact .pure
  | cons b rest ih =>
      obtain ⟨hb, hrest⟩ := List.forall_mem_cons.1 h
      exact .bind hb fun _ => ih hrest

/-- A run keeps what each of its behaviors keeps. -/
theorem keeps_applyBehaviors (hd : ∀ s : Database, P s →
    ∀ b ∈ s.behaviors, Keeps P ((registry.effectOf b).onDatabase b))
    (he : ∀ slot, Keeps P (applySlot registry slot)) : Keeps P (Database.applyBehaviors registry) := by
  intro s hs
  have hu := keeps_applyToDatabase (hd s hs) s hs
  cases ha : applyToDatabase registry s.behaviors s with
  | error fault u => simpa [Database.applyBehaviors, Edit.after, ha] using hu
  | ok a u =>
      rw [after_of_ok ha] at hu
      simpa [Database.applyBehaviors, Edit.after, ha] using keeps_applyPending he _ u hu

end Schedule

/-- The behaviors of a database together keep what the effects respect, if marking them does. -/
theorem Registry.Respects.keeps_applyBehaviors_of {registry : Registry} {P : Database → Prop}
    (hr : registry.Respects P)
    (hm : ∀ s slot, P s → P (Schedule.markApplied slot s)) : Keeps P (Database.applyBehaviors registry) :=
  Schedule.keeps_applyBehaviors (fun _ _ b _ => (hr b).onDatabase b)
    (Schedule.keeps_applySlot_of hm fun b name => (hr b).onEntity { b with applied := true } name)

theorem Registry.Respects.keeps_applyBehaviors {registry : Registry} {P : Database → Prop}
    (hr : registry.Respects P)
    (hx : ∀ s t : Database, P s → s.Extends t → P t) : Keeps P (Database.applyBehaviors registry) :=
  hr.keeps_applyBehaviors_of fun s slot hs => hx s _ hs (Schedule.extends_markApplied (.refl s) slot)

/-- The behaviors of a database and of its entities together only extend it. -/
theorem Database.keeps_applyBehaviors {registry : Registry} (hr : registry.Additive) :
    Keeps db.Extends (Database.applyBehaviors registry) :=
  Schedule.keeps_applyBehaviors (fun _ _ b _ => (hr b).onDatabase b db) (Schedule.keeps_applySlot hr)

end Tablecraft
