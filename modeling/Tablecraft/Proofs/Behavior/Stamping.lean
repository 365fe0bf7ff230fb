import Mathlib.Data.List.Sort
import Tablecraft.Proofs.Behavior.Benign

namespace Tablecraft

open List Edit

variable {registry : Registry} {db t : Database} {e : Entity} {b : Behavior} {own : List Behavior}
  {i k limit : Nat}

def Entity.Stamping (registry : Registry) (e : Entity) : Prop :=
  ∀ b ∈ e.behaviors, registry.effectOf b = Timestampable.effect

structure Database.Stamping (registry : Registry) (db : Database) : Prop where
  behaviors : ∀ b ∈ db.behaviors, registry.effectOf b = Timestampable.effect
  entities : ∀ e ∈ db.entities, e.Stamping registry

theorem Timestampable.addColumns_eq_ok (b : Behavior) (columns : List (String × String)) (e : Entity) :
    addColumns b columns e = .ok () ((addColumns b columns).after e) := by
  suffices h : ∃ e', addColumns b columns e = .ok () e' by
    obtain ⟨e', h⟩ := h
    rw [after_of_ok h, h]
  induction columns generalizing e with
  | nil => exact ⟨e, rfl⟩
  | cons column rest ih =>
      have hcolumn : ∃ e', addColumn b column e = .ok () e' := by
        simp only [addColumn, attempt_eq_ok_iff]
        split
        · exact ⟨e, rfl⟩
        · rename_i name _
          by_cases hn : e.hasField name = true
          · exact ⟨e, if_pos hn⟩
          · -- a column has no values to select a class by
            exact ⟨_, (if_neg hn).trans (by simp only [Entity.addField, hn]; rfl)⟩
      obtain ⟨e₁, h₁⟩ := hcolumn
      obtain ⟨e₂, h₂⟩ := ih e₁
      exact ⟨e₂, bind_eq_ok_iff.2 ⟨(), e₁, h₁, h₂⟩⟩

theorem Timestampable.onEntity_eq_ok (ha : db.Addressed) (hi : db.entities[i]? = some e) (b : Behavior) :
    onEntity b e.name db = .ok () (db.modifyEntityAt i fun _ => (addColumns b columns).after e) := by
  have hp := ha.position?_eq hi
  have hfound := Database.entity?_eq_some_iff.2 ⟨i, hp, hi⟩
  have hrun := Database.editEntity_of_ok hfound (addColumns_eq_ok b columns e)
  simp only [onEntity, Database.hasEntity, hfound, Option.isSome_some, if_true]
  rw [hrun, Database.modifyEntity_eq_modifyEntityAt hp]

namespace Schedule

def serve (k : Nat) (e : Entity) : Entity :=
  match e.behaviors[k]? with
  | none => e
  | some b =>
    (Timestampable.addColumns { b with applied := true } Timestampable.columns).after
      { e with behaviors := applyAt k e.behaviors }

theorem enriches_serve (k : Nat) (e : Entity) :
    Entity.Enriches (fun _ => none) { e with behaviors := applyAt k e.behaviors } (serve k e) := by
  unfold serve
  cases hk : e.behaviors[k]? with
  | some b => exact Timestampable.enriches_addColumns _ _ _ _ (.refl _)
  | none =>
      have hself : applyAt k e.behaviors = e.behaviors := by
        rw [applyAt_eq_modify, List.modify_eq_self (List.getElem?_eq_none_iff.1 hk)]
      rw [hself]
      exact .refl e

theorem sameNames_serve (k : Nat) (e : Entity) : e.SameNames (serve k e) :=
  (enriches_serve k e).extension.sameNames

theorem behaviors_serve (k : Nat) (e : Entity) : (serve k e).behaviors = applyAt k e.behaviors :=
  (enriches_serve k e).behaviors

theorem stamping_serve (h : e.Stamping registry) : (serve k e).Stamping registry := by
  intro b hb
  rw [behaviors_serve, applyAt_eq_modify] at hb
  obtain ⟨c, hc, rfl | rfl⟩ := FirstMatch.mem_listModify hb
  · exact h b hc
  · exact h c hc

def serveSlot (db : Database) (slot : Slot) : Database := db.modifyEntityAt slot.entity (serve slot.behavior)

variable {slot : Slot} {slots : List Slot}

theorem agenda_serveSlot (slot : Slot) (db : Database) :
    agenda (serveSlot db slot) = agenda (markApplied slot db) := by
  unfold agenda serveSlot markApplied Database.modifyEntityAt
  refine List.ext_getElem? fun j => ?_
  simp only [List.getElem?_map, List.getElem?_modify]
  split
  · cases db.entities[j]? <;> simp [behaviors_serve]
  · rfl

/-- The behavior is marked first, and the columns are added to the entity as it is then. -/
theorem serveSlot_eq (he : db.entities[slot.entity]? = some e) (hb : e.behaviors[slot.behavior]? = some b) :
    serveSlot db slot = (markApplied slot db).modifyEntityAt slot.entity fun _ =>
      (Timestampable.addColumns { b with applied := true } Timestampable.columns).after
        { e with behaviors := applyAt slot.behavior e.behaviors } := by
  unfold serveSlot markApplied Database.modifyEntityAt
  refine congrArg (fun entities => { db with entities }) (List.ext_getElem? fun j => ?_)
  simp only [List.getElem?_modify]
  by_cases hj : slot.entity = j
  · simp [← hj, he, hb, serve]
  · simp [hj]

theorem applySlot_eq_ok (ha : db.Addressed) (hs : ∀ e ∈ db.entities, e.Stamping registry)
    (h : slot ∈ pending db) :
    applySlot registry slot db = .ok () (serveSlot db slot) := by
  obtain ⟨e, b, he, hb, -, -⟩ := mem_pending_iff.1 h
  have hoccupant : occupant? db slot = some (e, b) := by simp [occupant?, he, hb]
  have heffect := hs e (List.mem_of_getElem? he) b (List.mem_of_getElem? hb)
  have hmarked : (markApplied slot db).Addressed := ha.modifyEntityAt slot.entity fun _ => ⟨rfl, rfl⟩
  have hi : (markApplied slot db).entities[slot.entity]? =
      some { e with behaviors := applyAt slot.behavior e.behaviors } := by
    simp [markApplied, Database.modifyEntityAt, he]
  simp only [applySlot, hoccupant, heffect]
  rw [serveSlot_eq he hb]
  exact Timestampable.onEntity_eq_ok hmarked hi { b with applied := true }

theorem stamping_serveSlot (hs : ∀ e ∈ db.entities, e.Stamping registry) :
    ∀ e ∈ (serveSlot db slot).entities, e.Stamping registry := by
  intro e he
  obtain ⟨x, hx, rfl | rfl⟩ := FirstMatch.mem_listModify he
  · exact hs e hx
  · exact stamping_serve (hs x hx)

/-- The run serves the pending slots in their order if there are not too many of them. -/
theorem applyPending_eq_ok_iff (ha : db.Addressed) (hs : ∀ e ∈ db.entities, e.Stamping registry)
    (h : Listed slots db) :
    applyPending registry limit db = .ok () t ↔ slots.length ≤ limit ∧ t = slots.foldl serveSlot db := by
  induction slots generalizing db limit with
  | nil => simp [applyPending_of_none h.next?_nil, eq_comm]
  | cons slot rest ih =>
      have hn : next? db = some slot := next?_eq_some_iff.2 h.isFirst
      cases limit with
      | zero => simp [applyPending_zero_of_some hn]
      | succ limit =>
          have hrun := applySlot_eq_ok ha hs h.isFirst.1
          rw [applyPending_succ_of_ok hn hrun, List.length_cons, Nat.add_le_add_iff_right, List.foldl_cons]
          have hnext : (serveSlot db slot).Addressed :=
            ha.modifyEntityAt slot.entity (sameNames_serve slot.behavior)
          exact ih hnext (stamping_serveSlot hs) (h.of_quiet (agenda_serveSlot slot db))

theorem foldl_serveSlot (slots : List Slot) (db : Database) :
    slots.foldl serveSlot db = { db with entities := (slots.foldl serveSlot db).entities } ∧
      ∀ i, (slots.foldl serveSlot db).entities[i]? = db.entities[i]?.map fun e =>
        ((slots.filter (·.entity == i)).map (·.behavior)).foldl (fun e k => serve k e) e := by
  induction slots generalizing db with
  | nil => exact ⟨rfl, fun i => by simp⟩
  | cons slot rest ih =>
      obtain ⟨hframe, hget⟩ := ih (serveSlot db slot)
      refine ⟨by rw [List.foldl_cons, hframe]; rfl, fun i => ?_⟩
      rw [List.foldl_cons, hget, serveSlot, Database.modifyEntityAt, List.getElem?_modify]
      by_cases hi : slot.entity = i
      · simp [hi, Option.map_map, Function.comp_def]
      · simp [hi]

def ownQueue (e : Entity) : List Nat := ((pendingIn 0 0 e.behaviors).mergeSort Slot.inOrder).map (·.behavior)

instance : Std.Irrefl Slot.Precedes := ⟨fun _ h => h.asymm h⟩

instance : Std.Antisymm Slot.Precedes := ⟨fun _ _ h h' => (h.asymm h').elim⟩

theorem sorted_pendingIn (bs : List Behavior) :
    ((pendingIn 0 0 bs).mergeSort Slot.inOrder).Pairwise Slot.Precedes := by
  have h := pairwise_mergeSort_pending { name := "", entities := [{ name := "", behaviors := bs }] }
  rwa [pending, pendingFrom, pendingFrom, List.append_nil] at h

theorem filter_mergeSort_pending (he : db.entities[i]? = some e) :
    (((pending db).mergeSort Slot.inOrder).filter (·.entity == i)).map (·.behavior) = ownQueue e := by
  have hown {s : Slot} (hs : s ∈ (pendingIn 0 0 e.behaviors).mergeSort Slot.inOrder) : s.entity = 0 :=
    (mem_pendingIn_iff.1 (List.mem_mergeSort.1 hs)).1
  have hmoved : ((pending db).mergeSort Slot.inOrder).filter (·.entity == i) =
      ((pendingIn 0 0 e.behaviors).mergeSort Slot.inOrder).map fun s => { s with entity := i } := by
    refine List.Pairwise.eq_of_mem_iff ((pairwise_mergeSort_pending db).filter _)
      (List.pairwise_map.2 ?_) fun s => ?_
    · refine (sorted_pendingIn e.behaviors).imp_of_mem fun {s s'} hs hs' h => ?_
      have h₀ := hown hs
      have h₁ := hown hs'
      unfold Slot.Precedes Slot.Before at *
      dsimp only
      omega
    · simp only [List.mem_filter, List.mem_map, List.mem_mergeSort, mem_pending_iff,
        mem_pendingIn_iff, beq_iff_eq]
      constructor
      · rintro ⟨⟨e', b, he', hb, ha, ho⟩, rfl⟩
        cases he.symm.trans he'
        exact ⟨{ s with entity := 0 }, ⟨rfl, Nat.zero_le _, b, by simpa using hb, ha, ho⟩, rfl⟩
      · rintro ⟨s, ⟨-, -, b, hb, ha, ho⟩, rfl⟩
        exact ⟨⟨e, b, he, by simpa using hb, ha, ho⟩, rfl⟩
  rw [hmoved, List.map_map]
  rfl

theorem length_pendingIn (entity behavior : Nat) (bs : List Behavior) :
    (pendingIn entity behavior bs).length = bs.countP (!·.applied) := by
  induction bs generalizing behavior with
  | nil => rfl
  | cons b rest ih => cases hb : b.applied <;> simp [pendingIn, hb, ih]

theorem length_pending (db : Database) :
    (pending db).length = (db.entities.flatMap (·.behaviors)).countP (!·.applied) := by
  have hfrom (entity : Nat) (es : List Entity) :
      (pendingFrom entity es).length = (es.flatMap (·.behaviors)).countP (!·.applied) := by
    induction es generalizing entity with
    | nil => rfl
    | cons e rest ih =>
        rw [pendingFrom, List.length_append, length_pendingIn, ih, List.flatMap_cons, List.countP_append]
  exact hfrom 0 db.entities

def spread (own : List Behavior) (e : Entity) : Entity := own.foldl (fun e b => Database.propagateTo b e) e

def stamp (own : List Behavior) (e : Entity) : Entity :=
  (ownQueue (spread own e)).foldl (fun e k => serve k e) (spread own e)

theorem sameNames_spread (own : List Behavior) (e : Entity) : e.SameNames (spread own e) := by
  refine Entity.SameNames.foldl (fun e b => ?_) own e
  rw [Database.propagateTo_frame b e]
  exact ⟨rfl, rfl⟩

theorem sameNames_stamp (own : List Behavior) (e : Entity) : e.SameNames (stamp own e) :=
  (sameNames_spread own e).trans (.foldl (fun e k => sameNames_serve k e) _ _)

theorem stamping_spread (hb : ∀ b ∈ own, registry.effectOf b = Timestampable.effect) (h : e.Stamping registry) :
    (spread own e).Stamping registry := by
  induction own generalizing e with
  | nil => exact h
  | cons b rest ih =>
      obtain ⟨hb, hrest⟩ := List.forall_mem_cons.1 hb
      exact ih hrest (Database.forall_behaviors_propagateTo h hb)

theorem applyToDatabase_eq_ok (hb : ∀ b ∈ own, registry.effectOf b = Timestampable.effect) (db : Database) :
    applyToDatabase registry own db = .ok () { db with entities := db.entities.map (spread own) } := by
  induction own generalizing db with
  | nil =>
      have hself : db.entities.map (spread []) = db.entities := List.map_id' _
      rw [hself]
      rfl
  | cons b rest ih =>
      obtain ⟨hb, hrest⟩ := List.forall_mem_cons.1 hb
      refine bind_eq_ok_iff.2 ⟨(), Database.propagate b db, by rw [hb]; rfl, (ih hrest _).trans ?_⟩
      simp only [Database.propagate, List.map_map]
      rfl

/-- The run ends if not too many behaviors are pending, and changes every entity by itself. -/
theorem applyBehaviors_eq_ok_iff (ha : db.Addressed) (hs : db.Stamping registry) :
    Database.applyBehaviors registry db = .ok () t ↔
      (db.entities.flatMap fun e => (spread db.behaviors e).behaviors).countP (!·.applied) ≤ maxApplications ∧
        t = { db with entities := db.entities.map (stamp db.behaviors) } := by
  have hnames : ({ db with entities := db.entities.map (spread db.behaviors) } : Database).Addressed :=
    ha.congr (List.forall₂_map_right_iff.2 (forall₂_same.2 fun e _ => sameNames_spread _ e))
  have hspread : ∀ e ∈ db.entities.map (spread db.behaviors), e.Stamping registry := by
    intro e he
    obtain ⟨x, hx, rfl⟩ := List.mem_map.1 he
    exact stamping_spread hs.behaviors (hs.entities x hx)
  simp only [Database.applyBehaviors, applyToDatabase_eq_ok hs.behaviors]
  rw [applyPending_eq_ok_iff hnames hspread (.mergeSort _), (List.mergeSort_perm _ _).length_eq, length_pending,
    List.flatMap_map]
  refine and_congr Iff.rfl ?_
  obtain ⟨hframe, hget⟩ := foldl_serveSlot
    ((pending { db with entities := db.entities.map (spread db.behaviors) }).mergeSort Slot.inOrder)
    { db with entities := db.entities.map (spread db.behaviors) }
  have hentities : (((pending { db with entities := db.entities.map (spread db.behaviors) }).mergeSort
      Slot.inOrder).foldl serveSlot { db with entities := db.entities.map (spread db.behaviors) }).entities =
      db.entities.map (stamp db.behaviors) := by
    refine List.ext_getElem? fun i => ?_
    rw [hget, List.getElem?_map, List.getElem?_map]
    cases hi : db.entities[i]? with
    | none => rfl
    | some e =>
        have hspread : ({ db with entities := db.entities.map (spread db.behaviors) } : Database).entities[i]? =
            some (spread db.behaviors e) := by
          rw [List.getElem?_map, hi, Option.map_some]
        simp only [Option.map_some]
        rw [filter_mergeSort_pending hspread]
        rfl
  rw [hframe, hentities]

end Schedule

end Tablecraft
