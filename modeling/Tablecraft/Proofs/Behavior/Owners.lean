import Mathlib.Logic.Relation
import Tablecraft.Proofs.Behavior.Additive
import Tablecraft.Proofs.Behavior.Scheduling
import Tablecraft.Proofs.Model.Ownership

namespace Tablecraft

open List Edit

inductive BearerChange
  | rename (name : String)
  | attach (b : Behavior)
  | inPlace (c : EntityChange)

namespace Entity

variable {e e' : Entity} {b : Behavior} {name : String} {c : BearerChange}

def bear (e : Entity) : BearerChange → Entity
  | .rename name => e.setName name
  | .attach b => (Outcome.ofAddition e (e.addBehavior b)).2
  | .inPlace c => (e.change c).2

def KnownToBehaviors (e : Entity) : Prop := ∀ b ∈ e.behaviors, b.entity = some e.name

instance : Decidable e.KnownToBehaviors := inferInstanceAs (Decidable (∀ b ∈ e.behaviors, b.entity = some e.name))

/-- The change gives the entity another name while it has behaviors. -/
def Strands (e : Entity) : BearerChange → Prop
  | .rename name => e.behaviors ≠ [] ∧ e.name ≠ name
  | _ => False

instance : (c : BearerChange) → Decidable (e.Strands c)
  | .rename name => inferInstanceAs (Decidable (e.behaviors ≠ [] ∧ e.name ≠ name))
  | .attach _ | .inPlace _ => inferInstanceAs (Decidable False)

def SameBearer (e e' : Entity) : Prop :=
  e'.name = e.name ∧ e'.behaviors.map (·.entity) = e.behaviors.map (·.entity)

theorem KnownToBehaviors.congr (h : e.KnownToBehaviors) (he : e.SameBearer e') : e'.KnownToBehaviors := by
  intro b hb
  have hcopy := List.mem_map_of_mem (f := (·.entity)) hb
  rw [he.2] at hcopy
  obtain ⟨b₀, hb₀, hsame⟩ := List.mem_map.1 hcopy
  rw [← hsame, he.1, h b₀ hb₀]

theorem sameBearer_change (e : Entity) (c : EntityChange) : e.SameBearer (e.change c).2 := by
  cases c with
  | addField f =>
      refine Outcome.kept_ofAddition (P := e.SameBearer) ⟨rfl, rfl⟩ fun t ht => ?_
      obtain ⟨-, -, rfl⟩ := addField_eq_ok ht
      exact ⟨rfl, rfl⟩
  | addIndex i =>
      refine Outcome.kept_ofAddition (P := e.SameBearer) ⟨rfl, rfl⟩ fun t ht => ?_
      obtain ⟨j, -, rfl⟩ := addIndex_eq_ok ht
      exact ⟨rfl, rfl⟩
  | addUnique i =>
      refine Outcome.kept_ofAddition (P := e.SameBearer) ⟨rfl, rfl⟩ fun t ht => ?_
      obtain ⟨j, -, rfl⟩ := addUnique_eq_ok ht
      exact ⟨rfl, rfl⟩
  | removeField name | removeRelation name =>
      refine Outcome.kept_ofRemoval (P := e.SameBearer) ⟨rfl, rfl⟩ fun a t ht => ?_
      obtain ⟨⟨x, rest⟩, -, heq⟩ := Option.map_eq_some_iff.1 ht
      obtain ⟨-, rfl⟩ := Prod.mk.inj heq
      exact ⟨rfl, rfl⟩
  | removeIndex name =>
      refine Outcome.kept_ofRemoval (P := e.SameBearer) ⟨rfl, rfl⟩ fun i t ht => ?_
      obtain ⟨-, rest, rfl, -⟩ | ⟨-, rest, rfl, -⟩ := removeIndex?_eq_some ht
      · exact ⟨rfl, rfl⟩
      · exact ⟨rfl, rfl⟩
  | setTable | addRelation | setNameLimit => exact ⟨rfl, rfl⟩

theorem KnownToBehaviors.attachBehavior (h : e.KnownToBehaviors) (b : Behavior) :
    (e.attachBehavior b).KnownToBehaviors := by
  intro c hc
  rcases List.mem_append.1 hc with hc | hc
  · exact h c hc
  · rw [List.mem_singleton.1 hc]
    rfl

theorem KnownToBehaviors.addBehavior (h : e.KnownToBehaviors) (ha : e.addBehavior b = .ok e') :
    e'.KnownToBehaviors := by
  obtain ⟨-, rfl⟩ := Entity.addBehavior_eq_ok ha
  exact h.attachBehavior b

/-- Of all that can happen to an entity, only another name can take it away from its behaviors. -/
theorem knownToBehaviors_bear_iff (h : e.KnownToBehaviors) : (e.bear c).KnownToBehaviors ↔ ¬e.Strands c := by
  cases c with
  | rename name =>
      constructor
      -- Any behavior has the old name, and by assumption the new one as well.
      · rintro hname ⟨hbehaviors, hne⟩
        obtain ⟨b, hb⟩ := List.exists_mem_of_ne_nil _ hbehaviors
        exact hne (Option.some.inj ((h b hb).symm.trans (hname b hb)))
      · intro hstrands b hb
        have hsame : e.name = name := by
          by_contra hne
          exact hstrands ⟨List.ne_nil_of_mem hb, hne⟩
        exact (h b hb).trans (congrArg some hsame)
  | attach b => exact iff_of_true (Outcome.kept_ofAddition h fun _ => h.addBehavior) not_false
  | inPlace c => exact iff_of_true (h.congr (sameBearer_change e c)) not_false

end Entity

namespace Database

variable {db db' : Database} {e : Entity} {name : String}

def OwnersKnown (db : Database) : Prop := ∀ e ∈ db.entities, e.KnownToBehaviors

instance : Decidable db.OwnersKnown := inferInstanceAs (Decidable (∀ e ∈ db.entities, e.KnownToBehaviors))

theorem OwnersKnown.addEntity (h : db.OwnersKnown) (he : e.KnownToBehaviors) (ha : db.addEntity e = .ok db') :
    db'.OwnersKnown :=
  forall_addEntity h (he.congr ⟨rfl, rfl⟩) ha

theorem OwnersKnown.removeEntity? (h : db.OwnersKnown) (hr : db.removeEntity? name = some (e, db')) :
    db'.OwnersKnown ∧ e.KnownToBehaviors := by
  obtain ⟨e₀, he₀, rfl, -, hs⟩ := removeEntity?_eq_some hr
  exact ⟨fun x hx => h x (hs.subset hx), (h e₀ he₀).congr ⟨rfl, rfl⟩⟩

theorem OwnersKnown.addBehavior (h : db.OwnersKnown) {b : Behavior} (ha : db.addBehavior b = .ok db') :
    db'.OwnersKnown := by
  obtain ⟨-, rfl⟩ := addBehavior_eq_ok ha
  exact h

theorem OwnersKnown.markApplied (h : db.OwnersKnown) (slot : Schedule.Slot) :
    (Schedule.markApplied slot db).OwnersKnown := by
  intro e he
  obtain ⟨e₀, he₀, rfl | rfl⟩ := FirstMatch.mem_listModify he
  · exact h e he₀
  · intro b hb
    rw [Schedule.applyAt_eq_modify] at hb
    obtain ⟨b₀, hb₀, rfl | rfl⟩ := FirstMatch.mem_listModify hb
    · exact h e₀ he₀ b hb₀
    · exact h e₀ he₀ b₀ hb₀

def SameBearers (db db' : Database) : Prop := Forall₂ Entity.SameBearer db.entities db'.entities

theorem OwnersKnown.congr (h : db.OwnersKnown) (hs : db.SameBearers db') : db'.OwnersKnown := by
  intro e he
  obtain ⟨e₀, he₀, hsame⟩ := FirstMatch.exists_of_mem' hs he
  exact (h e₀ he₀).congr hsame

end Database

inductive Place
  | loose (position : Nat)
  | owned (database position : Nat)

inductive BearingChange
  | create (name : String)
  | entity (place : Place) (c : BearerChange)
  | addEntity (database loose : Nat)
  | removeEntity (database : Nat) (name : String)
  | addBehavior (database : Nat) (b : Behavior)

namespace Holdings

variable {w w' : Holdings} {place : Place}

def modifyDatabase (w : Holdings) (database : Nat) (f : Database → Database) : Holdings :=
  { w with databases := w.databases.modify database f }

def entity? (w : Holdings) : Place → Option Entity
  | .loose i => w.loose[i]?
  | .owned d i => w.databases[d]?.bind (·.entities[i]?)

def modifyEntity (w : Holdings) (f : Entity → Entity) : Place → Holdings
  | .loose i => { w with loose := w.loose.modify i f }
  | .owned d i => w.modifyDatabase d (Database.modifyEntityAt i f)

def act (w : Holdings) : BearingChange → Holdings
  | .create name => { w with loose := w.loose ++ [{ name }] }
  | .entity place c => w.modifyEntity (·.bear c) place
  | .addEntity d i => (w.change (.addEntity d i)).2
  | .removeEntity d name => (w.change (.removeEntity d name)).2
  | .addBehavior d b => w.modifyDatabase d fun db => (Outcome.ofAddition db (db.addBehavior b)).2

structure OwnersKnown (w : Holdings) : Prop where
  databases : ∀ db ∈ w.databases, db.OwnersKnown
  loose : ∀ e ∈ w.loose, e.KnownToBehaviors

instance : Decidable w.OwnersKnown :=
  decidable_of_iff ((∀ db ∈ w.databases, db.OwnersKnown) ∧ ∀ e ∈ w.loose, e.KnownToBehaviors)
    ⟨fun h => ⟨h.1, h.2⟩, fun h => ⟨h.1, h.2⟩⟩

def Strands (w : Holdings) : BearingChange → Prop
  | .entity place c => ∃ e ∈ w.entity? place, e.Strands c
  | _ => False

instance : (c : BearingChange) → Decidable (w.Strands c)
  | .entity place c => inferInstanceAs (Decidable (∃ e ∈ w.entity? place, e.Strands c))
  | .create _ | .addEntity _ _ | .removeEntity _ _ | .addBehavior _ _ => inferInstanceAs (Decidable False)

theorem OwnersKnown.modifyDatabase (h : w.OwnersKnown) {d : Nat} {f : Database → Database}
    (hf : ∀ db, db.OwnersKnown → (f db).OwnersKnown) : (w.modifyDatabase d f).OwnersKnown := by
  refine ⟨fun db hdb => ?_, h.loose⟩
  obtain ⟨db₀, hdb₀, rfl | rfl⟩ := FirstMatch.mem_listModify hdb
  · exact h.databases db hdb₀
  · exact hf db₀ (h.databases db₀ hdb₀)

theorem OwnersKnown.changeDatabase (h : w.OwnersKnown) {d : Nat} {f : Database → Outcome × Database}
    (hf : ∀ db, db.OwnersKnown → (f db).2.OwnersKnown) : (w.changeDatabase d f).2.OwnersKnown := by
  rw [Holdings.changeDatabase, Prod.map_snd, Outcome.snd_atPosition]
  exact h.modifyDatabase hf

theorem exists_removeEntity?_of_change {d : Nat} {name : String} {e : Entity}
    (h : (w.change (.removeEntity d name)).1 = .removed (.entity e)) :
    ∃ db ∈ w.databases, ∃ db', db.removeEntity? name = some (e, db') := by
  simp only [change, Holdings.changeDatabase, Prod.map_fst, id, Outcome.atPosition] at h
  split at h
  · rename_i db hdb
    refine ⟨db, List.mem_of_getElem? hdb, ?_⟩
    cases hr : db.removeEntity? name with
    | none =>
        rw [hr] at h
        cases h
    | some p =>
        rw [hr] at h
        cases h
        exact ⟨p.2, rfl⟩
  · cases h

theorem OwnersKnown.addEntity (h : w.OwnersKnown) (d i : Nat) : (w.change (.addEntity d i)).2.OwnersKnown := by
  rw [change]
  split
  · rename_i e he
    have hloose := h.loose e (List.mem_of_getElem? he)
    exact h.changeDatabase fun db hdb => Outcome.kept_ofAddition hdb fun _ => hdb.addEntity hloose
  · exact h

theorem OwnersKnown.removeEntity (h : w.OwnersKnown) (d : Nat) (name : String) :
    (w.change (.removeEntity d name)).2.OwnersKnown := by
  have hkept := h.changeDatabase (d := d) (f := fun db => Outcome.ofRemoval .entity db (db.removeEntity? name))
    fun db hdb => Outcome.kept_ofRemoval hdb fun _ _ hr => (hdb.removeEntity? hr).1
  refine ⟨hkept.databases, fun e he => ?_⟩
  rcases List.mem_append.1 he with he | he
  · exact hkept.loose e he
  · have hremoved := Outcome.entity?_eq_some_iff.1 (Option.mem_toList.1 he)
    obtain ⟨db, hdb, db', hr⟩ := exists_removeEntity?_of_change hremoved
    exact ((h.databases db hdb).removeEntity? hr).2

theorem ownersKnown_modifyEntity_iff (h : w.OwnersKnown) {f : Entity → Entity} :
    (w.modifyEntity f place).OwnersKnown ↔ ∀ e ∈ w.entity? place, (f e).KnownToBehaviors := by
  cases place with
  | loose i =>
      have hloose := FirstMatch.forall_mem_listModify_iff (f := f) (i := i) h.loose
      exact ⟨fun hf => hloose.1 hf.loose, fun hf => ⟨h.databases, hloose.2 hf⟩⟩
  | owned d i =>
      have hentities (db : Database) (hdb : db ∈ w.databases) :
          (db.modifyEntityAt i f).OwnersKnown ↔ ∀ e ∈ db.entities[i]?, (f e).KnownToBehaviors :=
        FirstMatch.forall_mem_listModify_iff (h.databases db hdb)
      have hdatabases := FirstMatch.forall_mem_listModify_iff (f := Database.modifyEntityAt i f)
        (i := d) h.databases
      constructor
      · intro hf e he
        obtain ⟨db, hdb, he⟩ := Option.mem_bind_iff.1 he
        exact (hentities db (List.mem_of_getElem? hdb)).1 (hdatabases.1 hf.databases db hdb) e he
      · intro hf
        refine ⟨hdatabases.2 fun db hdb => ?_, h.loose⟩
        exact (hentities db (List.mem_of_getElem? hdb)).2 fun e he => hf e (Option.mem_bind_iff.2 ⟨db, hdb, he⟩)

theorem OwnersKnown.entity? (h : w.OwnersKnown) {e : Entity} (he : e ∈ w.entity? place) : e.KnownToBehaviors := by
  cases place with
  | loose i => exact h.loose e (List.mem_of_getElem? he)
  | owned d i =>
      obtain ⟨db, hdb, he⟩ := Option.mem_bind_iff.1 he
      exact h.databases db (List.mem_of_getElem? hdb) e (List.mem_of_getElem? he)

/-- After one operation the behaviors know their owners exactly if it strands none of them. -/
theorem ownersKnown_act_iff (h : w.OwnersKnown) (c : BearingChange) : (w.act c).OwnersKnown ↔ ¬w.Strands c := by
  cases c with
  | create name =>
      refine iff_of_true ⟨h.databases, fun e he => ?_⟩ not_false
      rcases List.mem_append.1 he with he | he
      · exact h.loose e he
      · rw [List.mem_singleton.1 he]
        exact fun _ hb => nomatch hb
  | entity place c =>
      rw [act, ownersKnown_modifyEntity_iff h]
      constructor
      · rintro hall ⟨e, he, hstrands⟩
        exact (Entity.knownToBehaviors_bear_iff (h.entity? he)).1 (hall e he) hstrands
      · intro hnone e he
        exact (Entity.knownToBehaviors_bear_iff (h.entity? he)).2 fun hstrands => hnone ⟨e, he, hstrands⟩
  | addEntity d i => exact iff_of_true (h.addEntity d i) not_false
  | removeEntity d name => exact iff_of_true (h.removeEntity d name) not_false
  | addBehavior d b =>
      refine iff_of_true ?_ not_false
      exact h.modifyDatabase fun db hdb => Outcome.kept_ofAddition hdb fun _ => hdb.addBehavior

/-- What operations do that strand no behavior, and anything else that leaves the names and their copies
alone. -/
inductive Step : Holdings → Holdings → Prop
  | act {w : Holdings} {c : BearingChange} (h : ¬w.Strands c) : Step w (w.act c)
  | aside {w : Holdings} {databases : List Database} {loose : List Entity}
      (hd : Forall₂ Database.SameBearers w.databases databases) (hl : Forall₂ Entity.SameBearer w.loose loose) :
      Step w ⟨databases, loose⟩

theorem OwnersKnown.step (h : w.OwnersKnown) (hs : Step w w') : w'.OwnersKnown := by
  cases hs with
  | act hc => exact (ownersKnown_act_iff h _).2 hc
  | aside hd hl =>
      refine ⟨fun db hdb => ?_, fun e he => ?_⟩
      · obtain ⟨db₀, hdb₀, hsame⟩ := FirstMatch.exists_of_mem' hd hdb
        exact (h.databases db₀ hdb₀).congr hsame
      · obtain ⟨e₀, he₀, hsame⟩ := FirstMatch.exists_of_mem' hl he
        exact (h.loose e₀ he₀).congr hsame

theorem OwnersKnown.steps (h : w.OwnersKnown) (hs : Relation.ReflTransGen Step w w') : w'.OwnersKnown := by
  induction hs with
  | refl => exact h
  | tail _ hstep ih => exact ih.step hstep

end Holdings

def Database.Leads (db db' : Database) : Prop :=
  ∃ loose, Relation.ReflTransGen Holdings.Step ⟨[db], []⟩ ⟨[db'], loose⟩

theorem Database.Leads.ownersKnown {db db' : Database} (h : db.Leads db') (hdb : db.OwnersKnown) :
    db'.OwnersKnown := by
  obtain ⟨loose, hsteps⟩ := h
  have hw : Holdings.OwnersKnown ⟨[db], []⟩ := ⟨by simpa using hdb, by simp⟩
  exact (hw.steps hsteps).databases db' (List.mem_singleton_self db')

theorem Database.Related.leads {db db' : Database} (h : db.Related Entity.SameBearer db') : db.Leads db' :=
  ⟨[], .single (.aside (.cons h.entities .nil) .nil)⟩

/-- The effect works through operations, and strands no behavior. -/
structure Effect.Orderly (effect : Effect) : Prop where
  onDatabase (b : Behavior) (db : Database) : db.Leads ((effect.onDatabase b).after db)
  onEntity (b : Behavior) (name : String) (db : Database) : db.Leads ((effect.onEntity b name).after db)

theorem Entity.bear_attach_fresh {e : Entity} {b : Behavior} (h : e.hasBehavior b.id = false) :
    e.bear (.attach b.fresh) = e.attachBehavior b.fresh := by
  have hclash : b.fresh.clashes e.behaviors = false := by
    rw [Behavior.clashes, show e.behaviors.any (·.id == b.fresh.id) = false from h, Bool.false_and]
  rw [bear, addBehavior, hclash]
  rfl

namespace Database

def holding (db : Database) (entities : List Entity) : Holdings := ⟨[{ db with entities }], []⟩

theorem steps_propagateTo (b : Behavior) (db : Database) (before : List Entity) (e : Entity)
    (rest : List Entity) :
    Relation.ReflTransGen Holdings.Step (db.holding (before ++ e :: rest))
      (db.holding (before ++ propagateTo b e :: rest)) := by
  cases he : e.hasBehavior b.id with
  | true =>
      rw [propagateTo, if_pos he]
  | false =>
      have hstep : Holdings.Step _ _ := .act (w := db.holding (before ++ e :: rest))
        (c := .entity (.owned 0 before.length) (.attach b.fresh)) (by simp [Holdings.Strands, Entity.Strands])
      simp only [holding, Holdings.act, Holdings.modifyEntity, Holdings.modifyDatabase, List.modify_zero_cons,
        modifyEntityAt, FirstMatch.listModify_append, Entity.bear_attach_fresh he] at hstep
      rw [propagateTo, if_neg (by simp [he])]
      exact .single hstep

theorem steps_propagate (b : Behavior) (db : Database) (before rest : List Entity) :
    Relation.ReflTransGen Holdings.Step (db.holding (before ++ rest))
      (db.holding (before ++ rest.map (propagateTo b))) := by
  induction rest generalizing before with
  | nil => exact .refl
  | cons e rest ih =>
      -- The entities in front are done with, so the next one has its turn at their end.
      have hrest := ih (before ++ [propagateTo b e])
      rw [List.append_assoc, List.append_assoc] at hrest
      exact (steps_propagateTo b db before e rest).trans hrest

theorem leads_propagate (b : Behavior) (db : Database) : db.Leads (propagate b db) :=
  ⟨[], steps_propagate b db [] db.entities⟩

end Database

theorem Effect.orderly_default : Effect.Orderly {} where
  onDatabase b db := Database.leads_propagate b db
  onEntity _ _ _ := ⟨[], .refl⟩

theorem Timestampable.orderly_effect : effect.Orderly where
  onDatabase b db := Database.leads_propagate b db
  onEntity b name db := by
    have hcolumns (e₀ : Entity) : Keeps e₀.SameBearer (addColumns b columns) := by
      refine keeps_addColumns_of (fun e e' f _ h ha => ?_) b columns
      obtain ⟨-, -, rfl⟩ := Entity.addField_eq_ok ha
      exact h
    exact (keeps_onEntity_of hcolumns name db db (.refl (fun _ => ⟨rfl, rfl⟩) db)).leads

namespace Registry

variable {registry : Registry}

def Orderly (registry : Registry) : Prop := ∀ b, (registry.effectOf b).Orderly

theorem orderly_builtins : builtins.Orderly := by
  intro b
  rcases effectOf_builtins b with h | h
  · rw [h]
    exact Timestampable.orderly_effect
  · rw [h]
    exact Effect.orderly_default

theorem Orderly.respects (hr : registry.Orderly) : registry.Respects Database.OwnersKnown := fun b =>
  { onDatabase := fun c db => ((hr b).onDatabase c db).ownersKnown
    onEntity := fun c name db => ((hr b).onEntity c name db).ownersKnown }

theorem Orderly.keeps_applyBehaviors (hr : registry.Orderly) :
    Keeps Database.OwnersKnown (Database.applyBehaviors registry) :=
  hr.respects.keeps_applyBehaviors_of fun _ slot h => h.markApplied slot

end Registry

inductive Move
  | act (c : BearingChange)
  | applyBehaviors (database : Nat)

namespace Holdings

variable {registry : Registry} {w : Holdings}

def move (registry : Registry) (w : Holdings) : Move → Holdings
  | .act c => w.act c
  | .applyBehaviors d => w.modifyDatabase d (Database.applyBehaviors registry).after

def runMoves (registry : Registry) (w : Holdings) (moves : List Move) : Holdings := moves.foldl (move registry) w

def StrandedBy (w : Holdings) : Move → Prop
  | .act c => w.Strands c
  | .applyBehaviors _ => False

instance : (m : Move) → Decidable (w.StrandedBy m)
  | .act c => inferInstanceAs (Decidable (w.Strands c))
  | .applyBehaviors _ => inferInstanceAs (Decidable False)

def StrandsNone (registry : Registry) : Holdings → List Move → Prop
  | _, [] => True
  | w, m :: rest => ¬w.StrandedBy m ∧ StrandsNone registry (w.move registry m) rest

instance decidableStrandsNone (registry : Registry) : (w : Holdings) → (moves : List Move) →
    Decidable (w.StrandsNone registry moves)
  | _, [] => inferInstanceAs (Decidable True)
  | w, m :: rest =>
    have := decidableStrandsNone registry (w.move registry m) rest
    inferInstanceAs (Decidable (¬w.StrandedBy m ∧ StrandsNone registry (w.move registry m) rest))

theorem ownersKnown_move_iff (hr : registry.Orderly) (h : w.OwnersKnown) (m : Move) :
    (w.move registry m).OwnersKnown ↔ ¬w.StrandedBy m := by
  cases m with
  | act c => exact ownersKnown_act_iff h c
  | applyBehaviors d => exact iff_of_true (h.modifyDatabase hr.keeps_applyBehaviors) not_false

/-- Whatever happens to entities and databases, behaviors know the present names of their owners at every
moment exactly if no entity gets another name while it has behaviors. -/
theorem ownersKnown_iff_strandsNone (hr : registry.Orderly) (hw : w.OwnersKnown) (moves : List Move) :
    (∀ n, (w.runMoves registry (moves.take n)).OwnersKnown) ↔ w.StrandsNone registry moves := by
  induction moves generalizing w with
  | nil => exact iff_of_true (fun n => by rwa [List.take_nil]) trivial
  | cons m rest ih =>
      constructor
      · intro hall
        have hm : (w.move registry m).OwnersKnown := hall 1
        exact ⟨(ownersKnown_move_iff hr hw m).1 hm, (ih hm).1 fun n => hall (n + 1)⟩
      · rintro ⟨hm, hrest⟩ n
        -- After the first move the invariant holds again, and the rest of the run begins there.
        have hnext := (ownersKnown_move_iff hr hw m).2 hm
        cases n with
        | zero => exact hw
        | succ n => exact (ih hnext).2 hrest n

def timestampable : Behavior :=
  { id := "timestampable", name := "timestampable", parameters := Timestampable.defaults,
    effect := some "timestampable" }

def lending : List Move :=
  [.act (.create "book"), .act (.entity (.loose 0) (.rename "volume")),
    .act (.entity (.loose 0) (.attach { id := "plain", name := "plain" })),
    .act (.entity (.loose 0) (.inPlace (.addField { name := "id", domain := .ofType .integer }))),
    .act (.entity (.loose 0) (.inPlace (.setTable (some "volumes")))),
    .act (.entity (.loose 0) (.rename "volume")), .act (.addEntity 0 0),
    .act (.addBehavior 0 timestampable), .applyBehaviors 0, .act (.removeEntity 0 "volume")]

theorem ownersKnown_iff_strandsNone_lending :
    let w : Holdings := ⟨[{ name := "library" }], []⟩
    Registry.builtins.Orderly ∧ w.OwnersKnown ∧
      (w.runMoves Registry.builtins lending).loose[1]?.map (fun e => (e.name, e.fieldNames)) =
        some ("volume", ["id", "created_at", "updated_at"]) ∧
      (w.runMoves Registry.builtins lending).loose[1]?.map (fun e => e.behaviors.map fun b => (b.id, b.entity)) =
        some [("plain", some "volume"), ("timestampable", some "volume")] ∧
      ∀ n, (w.runMoves Registry.builtins (lending.take n)).OwnersKnown := by
  intro w
  have hw : w.OwnersKnown := by decide
  exact ⟨Registry.orderly_builtins, hw, by decide +kernel, by decide +kernel,
    (ownersKnown_iff_strandsNone Registry.orderly_builtins hw lending).2 (by decide +kernel)⟩

/-- A book with a behavior becomes a volume. Its behavior still takes it for a book, in the library too. -/
theorem exists_stranded_behavior :
    let w : Holdings := ⟨[{ name := "library" }], []⟩
    let moves : List Move := [.act (.create "book"), .act (.entity (.loose 0) (.attach timestampable)),
      .act (.entity (.loose 0) (.rename "volume")), .act (.addEntity 0 0), .applyBehaviors 0]
    w.OwnersKnown ∧
      (w.runMoves Registry.builtins moves).databases.map (·.entities.map fun e =>
        (e.name, e.behaviors.map (·.entity))) = [[("volume", [some "book"])]] ∧
      ¬(w.runMoves Registry.builtins moves).OwnersKnown := by
  decide +kernel

end Holdings

end Tablecraft
