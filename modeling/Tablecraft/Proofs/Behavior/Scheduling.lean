import Tablecraft.Behavior.Timestampable
import Tablecraft.Proofs.Behavior.Queue
import Tablecraft.Proofs.EditRuns

namespace Tablecraft

open List Edit

namespace Schedule

structure Call where
  database : Database
  slot : Slot

structure Call.Handles (registry : Registry) (c : Call) (e : Entity) (b : Behavior) : Prop where
  occupant : occupant? c.database c.slot = some (e, b)
  pending : b.applied = false
  order : b.order = c.slot.order
  effect : applySlot registry c.slot c.database =
    (registry.effectOf b).onEntity { b with applied := true } e.name (markApplied c.slot c.database)

/-- The calls of `applyPending`, up to the first that fails. -/
def calls (registry : Registry) : Nat → Database → List Call
  | 0, _ => []
  | limit + 1, db =>
    match next? db with
    | none => []
    | some slot =>
      ⟨db, slot⟩ ::
        match applySlot registry slot db with
        | .error _ _ => []
        | .ok _ db => calls registry limit db

def applySlots (registry : Registry) : List Slot → Edit Database Unit
  | [] => pure ()
  | slot :: rest => do
    applySlot registry slot
    applySlots registry rest

variable {registry : Registry} {db t : Database} {slot : Slot} {limit : Nat}

theorem applyPending_of_none (h : next? db = none) : applyPending registry limit db = .ok () db := by
  cases limit <;> simp [applyPending, h]

theorem applyPending_zero_of_some (h : next? db = some slot) :
    applyPending registry 0 db = .error (.behaviorLoop maxApplications) db := by
  simp [applyPending, h]

theorem applyPending_succ_of_ok (h : next? db = some slot) (ht : applySlot registry slot db = .ok () t) :
    applyPending registry (limit + 1) db = applyPending registry limit t := by
  simp [applyPending, h, ht]

theorem applyPending_succ_of_error {fault : Fault} (h : next? db = some slot)
    (ht : applySlot registry slot db = .error fault t) :
    applyPending registry (limit + 1) db = .error fault t := by
  simp [applyPending, h, ht]

theorem calls_of_none (h : next? db = none) : calls registry limit db = [] := by
  cases limit <;> simp [calls, h]

theorem calls_succ_of_ok (h : next? db = some slot) (ht : applySlot registry slot db = .ok () t) :
    calls registry (limit + 1) db = ⟨db, slot⟩ :: calls registry limit t := by
  simp [calls, h, ht]

theorem calls_succ_of_error {fault : Fault} (h : next? db = some slot)
    (ht : applySlot registry slot db = .error fault t) : calls registry (limit + 1) db = [⟨db, slot⟩] := by
  simp [calls, h, ht]

theorem length_calls (registry : Registry) (limit : Nat) (db : Database) :
    (calls registry limit db).length ≤ limit := by
  induction limit generalizing db with
  | zero => exact Nat.le_refl _
  | succ limit ih =>
      cases hn : next? db with
      | none => simp [calls_of_none hn]
      | some slot =>
          cases ht : applySlot registry slot db with
          | error fault t => simp [calls_succ_of_error hn ht]
          | ok a t => simpa [calls_succ_of_ok hn ht] using ih t

/-- The run is its calls, and a look at what is left. -/
theorem applyPending_eq (registry : Registry) (limit : Nat) (db : Database) :
    applyPending registry limit db =
      (applySlots registry ((calls registry limit db).map (·.slot)) >>= fun _ => applyPending registry 0) db := by
  induction limit generalizing db with
  | zero => rfl
  | succ limit ih =>
      cases hn : next? db with
      | none =>
          rw [applyPending_of_none hn, calls_of_none hn]
          exact (applyPending_of_none hn).symm
      | some slot =>
          cases ht : applySlot registry slot db with
          | error fault t =>
              rw [applyPending_succ_of_error hn ht, calls_succ_of_error hn ht]
              change _ = EStateM.bind (EStateM.bind _ _) _ db
              simp [EStateM.bind, ht]
          | ok a t =>
              rw [applyPending_succ_of_ok hn ht, calls_succ_of_ok hn ht, ih t]
              change _ = EStateM.bind (EStateM.bind (applySlot registry slot) _) _ db
              simp only [EStateM.bind, ht]
              rfl

theorem call_spec {c : Call} {xs ys : List Call} (h : calls registry limit db = xs ++ c :: ys) :
    c.slot.IsFirst (pending c.database) ∧ applySlots registry (xs.map (·.slot)) db = .ok () c.database := by
  induction limit generalizing db xs with
  | zero => simp [calls] at h
  | succ limit ih =>
      cases hn : next? db with
      | none => simp [calls_of_none hn] at h
      | some slot =>
          cases ht : applySlot registry slot db with
          | error fault t =>
              rw [calls_succ_of_error hn ht] at h
              obtain ⟨rfl, h⟩ : xs = [] ∧ [⟨db, slot⟩] = c :: ys := by
                cases xs with
                | nil => exact ⟨rfl, h⟩
                | cons x xs => simp at h
              injection h with h _
              subst h
              exact ⟨isFirst_of_next? hn, rfl⟩
          | ok a t =>
              rw [calls_succ_of_ok hn ht] at h
              cases xs with
              | nil =>
                  injection h with h _
                  subst h
                  exact ⟨isFirst_of_next? hn, rfl⟩
              | cons x xs =>
                  injection h with hx h
                  subst hx
                  obtain ⟨hfirst, hrun⟩ := ih h
                  exact ⟨hfirst, bind_eq_ok_iff.2 ⟨(), t, ht, hrun⟩⟩

theorem exists_handles {c : Call} (h : c.slot ∈ pending c.database) : ∃ e b, c.Handles registry e b := by
  obtain ⟨e, b, he, hb, ha, ho⟩ := mem_pending_iff.1 h
  have hocc : occupant? c.database c.slot = some (e, b) := by simp [occupant?, he, hb]
  exact ⟨e, b, hocc, ha, ho, by simp [applySlot, hocc]⟩

theorem pending_of_applyPending (h : applyPending registry limit db = .ok () t) :
    pending t = [] := by
  rw [applyPending_eq] at h
  obtain ⟨-, u, -, h⟩ := bind_eq_ok_iff.1 h
  cases hn : next? u with
  | none =>
      rw [applyPending_of_none hn] at h
      cases h
      exact next?_eq_none_iff.1 hn
  | some slot => simp [applyPending_zero_of_some hn] at h

def agenda (db : Database) : List (List (Int × Bool)) :=
  db.entities.map fun e => e.behaviors.map fun b => (b.order, b.applied)

/-- The call ends, and the queue is as it found it but for the behavior that it applies. -/
def Call.Quiet (registry : Registry) (c : Call) : Prop :=
  ∃ t, applySlot registry c.slot c.database = .ok () t ∧ agenda t = agenda (markApplied c.slot c.database)

instance (c : Call) : Decidable (c.Quiet registry) :=
  match h : applySlot registry c.slot c.database with
  | .ok _ t =>
    decidable_of_iff (agenda t = agenda (markApplied c.slot c.database)) (by simp [Call.Quiet, h])
  | .error _ _ => .isFalse (by simp [Call.Quiet, h])

theorem mem_pending_iff_agenda {s : Slot} :
    s ∈ pending db ↔ ∃ row, (agenda db)[s.entity]? = some row ∧ row[s.behavior]? = some (s.order, false) := by
  rw [mem_pending_iff]
  constructor
  · rintro ⟨e, b, he, hb, ha, ho⟩
    exact ⟨_, by rw [agenda, List.getElem?_map, he]; rfl, by rw [List.getElem?_map, hb]; simp [ha, ho]⟩
  · rintro ⟨row, hrow, hs⟩
    rw [agenda, List.getElem?_map, Option.map_eq_some_iff] at hrow
    obtain ⟨e, he, rfl⟩ := hrow
    rw [List.getElem?_map, Option.map_eq_some_iff] at hs
    obtain ⟨b, hb, hs⟩ := hs
    injection hs with ho ha
    exact ⟨e, b, he, hb, ha, ho⟩

theorem applyAt_eq_modify (position : Nat) (bs : List Behavior) :
    applyAt position bs = bs.modify position fun b => { b with applied := true } := by
  induction bs generalizing position with
  | nil => cases position <;> rfl
  | cons b rest ih =>
      cases position with
      | zero => rfl
      | succ position => simp [applyAt, ih]

theorem mem_pending_markApplied {s : Slot} :
    s ∈ pending (markApplied slot db) ↔
      s ∈ pending db ∧ ¬ (s.entity = slot.entity ∧ s.behavior = slot.behavior) := by
  simp only [mem_pending_iff, markApplied, Database.modifyEntityAt, List.getElem?_modify, applyAt_eq_modify]
  by_cases hi : slot.entity = s.entity
  · simp only [if_pos hi, Option.map_eq_map, Option.map_eq_some_iff]
    constructor
    · rintro ⟨_, b', ⟨e, he, rfl⟩, hb, ha, ho⟩
      rw [List.getElem?_modify] at hb
      by_cases hk : slot.behavior = s.behavior
      · simp only [if_pos hk, Option.map_eq_map, Option.map_eq_some_iff] at hb
        obtain ⟨b, -, rfl⟩ := hb
        cases ha
      · simp only [if_neg hk, Option.map_eq_map, Option.map_id'] at hb
        exact ⟨⟨e, b', he, hb, ha, ho⟩, fun h => hk h.2.symm⟩
    · rintro ⟨⟨e, b, he, hb, ha, ho⟩, hne⟩
      have hk : slot.behavior ≠ s.behavior := fun h => hne ⟨hi.symm, h.symm⟩
      refine ⟨_, b, ⟨e, he, rfl⟩, ?_, ha, ho⟩
      rw [List.getElem?_modify]
      simpa only [if_neg hk, Option.map_eq_map, Option.map_id'] using hb
  · simp only [if_neg hi, Option.map_eq_map, Option.map_id']
    exact ⟨fun h => ⟨h, fun hs => hi hs.1.symm⟩, And.left⟩

theorem mem_pending_of_quiet {c : Call} (hfirst : c.slot.IsFirst (pending c.database))
    (ht : agenda t = agenda (markApplied c.slot c.database)) (s : Slot) :
    s ∈ pending t ↔ s ∈ pending c.database ∧ s ≠ c.slot := by
  rw [mem_pending_iff_agenda, ht, ← mem_pending_iff_agenda, mem_pending_markApplied]
  refine and_congr_right fun hs => not_congr ⟨fun ⟨hi, hk⟩ => ?_, by rintro rfl; exact ⟨rfl, rfl⟩⟩
  -- one place has one order
  by_contra hne
  obtain ⟨e, b, he, hb, -, ho⟩ := mem_pending_iff.1 hs
  obtain ⟨e', b', he', hb', -, ho'⟩ := mem_pending_iff.1 hfirst.1
  rw [hi, he'] at he
  cases he
  rw [hk, hb'] at hb
  cases hb
  refine hne ?_
  obtain ⟨order, i, k⟩ := s
  simp_all

structure Listed (slots : List Slot) (db : Database) : Prop where
  sorted : slots.Pairwise Slot.Precedes
  mem (s : Slot) : s ∈ slots ↔ s ∈ pending db

namespace Listed

variable {rest : List Slot}

theorem mergeSort (db : Database) : Listed ((pending db).mergeSort Slot.inOrder) db :=
  ⟨pairwise_mergeSort_pending db, fun _ => (List.mergeSort_perm (pending db) Slot.inOrder).mem_iff⟩

theorem next?_nil (h : Listed [] db) : next? db = none :=
  next?_eq_none_iff.2 (List.eq_nil_iff_forall_not_mem.2 fun s hs => by simpa using (h.mem s).2 hs)

theorem isFirst (h : Listed (slot :: rest) db) : slot.IsFirst (pending db) := by
  refine ⟨(h.mem slot).1 (by simp), fun t ht hne => ?_⟩
  rcases List.mem_cons.1 ((h.mem t).2 ht) with heq | ht
  · exact (hne heq).elim
  · exact (List.pairwise_cons.1 h.sorted).1 t ht

theorem of_quiet (h : Listed (slot :: rest) db) (ht : agenda t = agenda (markApplied slot db)) :
    Listed rest t := by
  obtain ⟨hs, hrest⟩ := List.pairwise_cons.1 h.sorted
  refine ⟨hrest, fun x => ?_⟩
  rw [mem_pending_of_quiet (c := ⟨db, slot⟩) h.isFirst ht x, ← h.mem x, List.mem_cons]
  constructor
  · intro hx
    refine ⟨.inr hx, ?_⟩
    rintro rfl
    exact (hs x hx).asymm (hs x hx)
  · rintro ⟨heq | hx, hne⟩
    · exact (hne heq).elim
    · exact hx

end Listed

/-- A run of quiet calls follows the order of the pending behaviors, as far as the limit goes. -/
theorem calls_of_quiet {slots : List Slot} (h : Listed slots db)
    (hquiet : ∀ c ∈ calls registry limit db, c.Quiet registry) :
    (calls registry limit db).map (·.slot) = slots.take limit ∧
      if slots.length ≤ limit then ∃ t, applyPending registry limit db = .ok () t
      else ∃ t, applyPending registry limit db = .error (.behaviorLoop maxApplications) t := by
  induction limit generalizing db slots with
  | zero =>
      refine ⟨by simp [calls], ?_⟩
      cases slots with
      | nil => simp [applyPending_of_none h.next?_nil]
      | cons s rest => simp [applyPending_zero_of_some (next?_eq_some_iff.2 h.isFirst)]
  | succ limit ih =>
      cases slots with
      | nil => simp [applyPending_of_none h.next?_nil, calls_of_none h.next?_nil]
      | cons s rest =>
          have hn : next? db = some s := next?_eq_some_iff.2 h.isFirst
          obtain ⟨t, ht, hagenda⟩ : Call.Quiet registry ⟨db, s⟩ := hquiet _ <| by
            simp only [calls, hn]
            exact List.mem_cons_self ..
          rw [calls_succ_of_ok hn ht] at hquiet ⊢
          rw [applyPending_succ_of_ok hn ht]
          obtain ⟨hmap, hend⟩ := ih (h.of_quiet hagenda) fun c hc => hquiet c (List.mem_cons_of_mem _ hc)
          refine ⟨by rw [List.map_cons, hmap, List.take_succ_cons], ?_⟩
          simpa only [List.length_cons, Nat.add_le_add_iff_right] using hend

end Schedule

open Schedule

/-- The calls of the whole run. Propagation comes first, and where it fails there are none. -/
def Database.behaviorCalls (registry : Registry) (db : Database) : List Call :=
  match applyToDatabase registry db.behaviors db with
  | .error _ _ => []
  | .ok _ db => calls registry maxApplications db

/-- What is promised of the behaviors of a database, for any effects they have. -/
structure Database.BehaviorsScheduled (registry : Registry) (db : Database) : Prop where
  bounded : (db.behaviorCalls registry).length ≤ maxApplications
  run : Database.applyBehaviors registry db =
    (applyToDatabase registry db.behaviors >>= fun _ =>
      applySlots registry ((db.behaviorCalls registry).map (·.slot)) >>= fun _ => applyPending registry 0) db
  /-- Every call finds the database that the calls before it have left, and in it takes the pending
  behavior that comes first. -/
  first (xs : List Call) (c : Call) (ys : List Call) : db.behaviorCalls registry = xs ++ c :: ys →
    (applyToDatabase registry db.behaviors >>= fun _ => applySlots registry (xs.map (·.slot))) db =
      .ok () c.database ∧
      c.slot.IsFirst (pending c.database) ∧ ∃ e b, c.Handles registry e b
  exhausted (t : Database) : Database.applyBehaviors registry db = .ok () t →
    ∀ e ∈ t.entities, ∀ b ∈ e.behaviors, b.applied = true
  /-- Calls that leave the queue alone follow the stable sort of what propagation left pending. -/
  sorted (u : Database) : applyToDatabase registry db.behaviors db = .ok () u →
    (∀ c ∈ db.behaviorCalls registry, c.Quiet registry) →
    (db.behaviorCalls registry).map (·.slot) = ((pending u).mergeSort Slot.inOrder).take maxApplications ∧
      ((db.behaviorCalls registry).map (·.slot)).Nodup ∧
      if (pending u).length ≤ maxApplications then ∃ t, Database.applyBehaviors registry db = .ok () t
      else ∃ t, Database.applyBehaviors registry db = .error (.behaviorLoop maxApplications) t

theorem behaviorsScheduled (registry : Registry) (db : Database) : db.BehaviorsScheduled registry := by
  cases hu : applyToDatabase registry db.behaviors db with
  | error fault u =>
      have hcalls : db.behaviorCalls registry = [] := by simp [Database.behaviorCalls, hu]
      have hrun : Database.applyBehaviors registry db = .error fault u := by simp [Database.applyBehaviors, hu]
      constructor
      case bounded => simp [hcalls]
      case run =>
        rw [hrun]
        change _ = EStateM.bind _ _ db
        simp [EStateM.bind, hu]
      case first => simp [hcalls]
      case exhausted => simp [hrun]
      case sorted => simp [hu]
  | ok a u =>
      have hcalls : db.behaviorCalls registry = calls registry maxApplications u := by
        simp [Database.behaviorCalls, hu]
      have hrun : Database.applyBehaviors registry db = applyPending registry maxApplications u := by
        simp [Database.applyBehaviors, hu]
      constructor
      case bounded => exact hcalls ▸ length_calls registry maxApplications u
      case run =>
        rw [hrun, hcalls, applyPending_eq]
        change _ = EStateM.bind _ _ db
        rw [EStateM.bind, hu]
      case first =>
        intro xs c ys h
        obtain ⟨hfirst, hxs⟩ := call_spec (hcalls ▸ h)
        exact ⟨bind_eq_ok_iff.2 ⟨(), u, hu, hxs⟩, hfirst, exists_handles hfirst.1⟩
      case exhausted =>
        intro t ht
        exact pending_eq_nil_iff.1 (pending_of_applyPending (hrun ▸ ht))
      case sorted =>
        intro u' hu' hquiet
        cases hu.symm.trans hu'
        have hperm := List.mergeSort_perm (pending u) Slot.inOrder
        obtain ⟨hmap, hend⟩ := calls_of_quiet (Listed.mergeSort u) (hcalls ▸ hquiet)
        rw [hperm.length_eq, ← hrun] at hend
        rw [hcalls, hmap]
        exact ⟨rfl, (hperm.nodup_iff.2 (nodup_pending u)).sublist (List.take_sublist ..), hend⟩

def auditedLibrary : Database where
  name := "library"
  entities :=
    [{ name := "author", behaviors := [{ Behavior.plain "audit" with order := 60 }] }, { name := "book" }]
  behaviors := [{ Behavior.plain "timestampable" with effect := some "timestampable" }]

theorem behaviorsScheduled_auditedLibrary :
    (auditedLibrary.behaviorCalls Registry.builtins).map (·.slot) = [⟨50, 0, 1⟩, ⟨50, 1, 0⟩, ⟨60, 0, 0⟩] ∧
      ∃ t, Database.applyBehaviors Registry.builtins auditedLibrary = .ok () t := by
  obtain ⟨u, hu⟩ : ∃ u, applyToDatabase Registry.builtins auditedLibrary.behaviors auditedLibrary =
    .ok () u := ⟨_, rfl⟩
  have hpending : pending u = [⟨60, 0, 0⟩, ⟨50, 0, 1⟩, ⟨50, 1, 0⟩] := by
    cases hu
    decide +kernel
  have hquiet : ∀ c ∈ auditedLibrary.behaviorCalls Registry.builtins,
    c.Quiet Registry.builtins := by decide +kernel
  obtain ⟨hslots, -, hend⟩ := (behaviorsScheduled Registry.builtins auditedLibrary).sorted u hu hquiet
  rw [hpending] at hslots hend
  refine ⟨hslots.trans ?_, hend⟩
  simp [List.mergeSort, List.MergeSort.Internal.splitInTwo, Slot.inOrder, maxApplications]

end Tablecraft
