import Mathlib.Data.List.Basic
import Mathlib.Data.List.Perm.Basic
import Tablecraft.Behavior.Schedule

namespace Tablecraft

open List

namespace Schedule

def pendingIn (entity behavior : Nat) : List Behavior → List Slot
  | [] => []
  | b :: rest =>
    if b.applied then pendingIn entity (behavior + 1) rest
    else ⟨b.order, entity, behavior⟩ :: pendingIn entity (behavior + 1) rest

def pendingFrom (entity : Nat) : List Entity → List Slot
  | [] => []
  | e :: rest => pendingIn entity 0 e.behaviors ++ pendingFrom (entity + 1) rest

def pending (db : Database) : List Slot := pendingFrom 0 db.entities

def Slot.Before (s t : Slot) : Prop := s.entity < t.entity ∨ s.entity = t.entity ∧ s.behavior < t.behavior

/-- The first slot is served before the second: by order, then by entity, then by place. -/
def Slot.Precedes (s t : Slot) : Prop := s.order < t.order ∨ s.order = t.order ∧ s.Before t

theorem Slot.Precedes.trans {s t u : Slot} (hst : s.Precedes t) (htu : t.Precedes u) : s.Precedes u := by
  unfold Slot.Precedes Slot.Before at *
  omega

theorem Slot.Precedes.asymm {s t : Slot} (hst : s.Precedes t) : ¬ t.Precedes s := by
  unfold Slot.Precedes Slot.Before at *
  omega

theorem mem_pendingIn_iff {s : Slot} {bs : List Behavior} {entity behavior : Nat} :
    s ∈ pendingIn entity behavior bs ↔ s.entity = entity ∧ behavior ≤ s.behavior ∧
      ∃ b, bs[s.behavior - behavior]? = some b ∧ b.applied = false ∧ b.order = s.order := by
  induction bs generalizing behavior with
  | nil => simp [pendingIn]
  | cons b rest ih =>
      -- either the slot is the one of `b`, or it lies among the rest
      have hcons : s ∈ pendingIn entity behavior (b :: rest) ↔
          (b.applied = false ∧ s = ⟨b.order, entity, behavior⟩) ∨ s ∈ pendingIn entity (behavior + 1) rest := by
        cases hb : b.applied <;> simp [pendingIn, hb]
      rw [hcons, ih]
      obtain ⟨order, i, k⟩ := s
      constructor
      · rintro (⟨hb, h⟩ | ⟨hi, hk, c, hc, h⟩)
        · cases h
          exact ⟨rfl, Nat.le_refl _, b, by simp, hb, rfl⟩
        · dsimp only at hi hk hc
          have hsub : k - behavior = (k - (behavior + 1)) + 1 := by omega
          exact ⟨hi, by dsimp only; omega, c, by rw [hsub, List.getElem?_cons_succ, hc], h⟩
      · rintro ⟨hi, hk, c, hc, happlied, horder⟩
        dsimp only at hi hk hc horder
        rcases Nat.eq_or_lt_of_le hk with rfl | hlt
        · rw [Nat.sub_self, List.getElem?_cons_zero] at hc
          cases hc
          exact .inl ⟨happlied, by rw [horder, hi]⟩
        · have hsub : k - behavior = (k - (behavior + 1)) + 1 := by omega
          rw [hsub, List.getElem?_cons_succ] at hc
          exact .inr ⟨hi, hlt, c, hc, happlied, horder⟩

theorem mem_pendingFrom_iff {s : Slot} {es : List Entity} {entity : Nat} :
    s ∈ pendingFrom entity es ↔ entity ≤ s.entity ∧ ∃ e b, es[s.entity - entity]? = some e ∧
      e.behaviors[s.behavior]? = some b ∧ b.applied = false ∧ b.order = s.order := by
  induction es generalizing entity with
  | nil => simp [pendingFrom]
  | cons e rest ih =>
      rw [pendingFrom, List.mem_append, ih, mem_pendingIn_iff]
      constructor
      · rintro (⟨hi, -, b, hb⟩ | ⟨hi, e', b, he, hb⟩)
        · exact ⟨hi ▸ Nat.le_refl _, e, b, by rw [hi, Nat.sub_self, List.getElem?_cons_zero], hb⟩
        · have hsub : s.entity - entity = (s.entity - (entity + 1)) + 1 := by omega
          exact ⟨by omega, e', b, by rw [hsub, List.getElem?_cons_succ, he], hb⟩
      · rintro ⟨hi, e', b, he, hb⟩
        rcases Nat.eq_or_lt_of_le hi with heq | hlt
        · rw [heq, Nat.sub_self, List.getElem?_cons_zero] at he
          cases he
          exact .inl ⟨heq.symm, Nat.zero_le _, b, hb⟩
        · have hsub : s.entity - entity = (s.entity - (entity + 1)) + 1 := by omega
          rw [hsub, List.getElem?_cons_succ] at he
          exact .inr ⟨hlt, e', b, he, hb⟩

theorem mem_pending_iff {s : Slot} {db : Database} :
    s ∈ pending db ↔ ∃ e b, db.entities[s.entity]? = some e ∧ e.behaviors[s.behavior]? = some b ∧
      b.applied = false ∧ b.order = s.order := by
  simp [pending, mem_pendingFrom_iff]

theorem pairwise_pendingIn (entity behavior : Nat) (bs : List Behavior) :
    (pendingIn entity behavior bs).Pairwise Slot.Before := by
  induction bs generalizing behavior with
  | nil => exact .nil
  | cons b rest ih =>
      rw [pendingIn]
      split
      · exact ih (behavior + 1)
      · refine .cons (fun s hs => ?_) (ih (behavior + 1))
        obtain ⟨hi, hk, -⟩ := mem_pendingIn_iff.1 hs
        exact .inr ⟨hi.symm, hk⟩

theorem pairwise_pendingFrom (entity : Nat) (es : List Entity) :
    (pendingFrom entity es).Pairwise Slot.Before := by
  induction es generalizing entity with
  | nil => exact .nil
  | cons e rest ih =>
      refine List.pairwise_append.2 ⟨pairwise_pendingIn entity 0 e.behaviors, ih (entity + 1), ?_⟩
      intro s hs t ht
      obtain ⟨hi, -⟩ := mem_pendingIn_iff.1 hs
      obtain ⟨hj, -⟩ := mem_pendingFrom_iff.1 ht
      exact .inl (by omega)

theorem pairwise_pending (db : Database) : (pending db).Pairwise Slot.Before :=
  pairwise_pendingFrom 0 db.entities

theorem nodup_pending (db : Database) : (pending db).Nodup :=
  (pairwise_pending db).imp fun {s t} h => by
    rintro rfl
    unfold Slot.Before at h
    omega

theorem pending_eq_nil_iff {db : Database} :
    pending db = [] ↔ ∀ e ∈ db.entities, ∀ b ∈ e.behaviors, b.applied = true := by
  rw [List.eq_nil_iff_forall_not_mem]
  constructor
  · intro h e he b hb
    obtain ⟨i, hi⟩ := List.getElem?_of_mem he
    obtain ⟨k, hk⟩ := List.getElem?_of_mem hb
    have hs := h ⟨b.order, i, k⟩
    rw [mem_pending_iff] at hs
    cases ha : b.applied with
    | true => rfl
    | false => exact (hs ⟨e, b, hi, hk, ha, rfl⟩).elim
  · intro h s hs
    obtain ⟨e, b, he, hb, ha, -⟩ := mem_pending_iff.1 hs
    rw [h e (List.mem_of_getElem? he) b (List.mem_of_getElem? hb)] at ha
    cases ha

def keepFirst : Option Slot → Slot → Option Slot
  | none, s => some s
  | some best, s => if s.order < best.order then some s else some best

theorem earliestIn_eq_foldl (best : Option Slot) (entity behavior : Nat) (bs : List Behavior) :
    earliestIn best entity behavior bs = (pendingIn entity behavior bs).foldl keepFirst best := by
  induction bs generalizing best behavior with
  | nil => rfl
  | cons b rest ih =>
      cases best with
      | none =>
          rw [earliestIn, pendingIn]
          split
          · exact ih none (behavior + 1)
          · exact ih _ (behavior + 1)
      | some slot =>
          rw [earliestIn, pendingIn]
          split
          · exact ih (some slot) (behavior + 1)
          · rw [List.foldl_cons, keepFirst]
            split <;> exact ih _ (behavior + 1)

theorem earliest_eq_foldl (best : Option Slot) (entity : Nat) (es : List Entity) :
    earliest best entity es = (pendingFrom entity es).foldl keepFirst best := by
  induction es generalizing best entity with
  | nil => rfl
  | cons e rest ih => rw [earliest, pendingFrom, List.foldl_append, ih, earliestIn_eq_foldl]

def Slot.IsFirst (s : Slot) (slots : List Slot) : Prop := s ∈ slots ∧ ∀ t ∈ slots, t ≠ s → s.Precedes t

theorem Slot.IsFirst.unique {s t : Slot} {xs ys : List Slot} (hs : s.IsFirst xs) (ht : t.IsFirst ys)
    (h : ∀ u, u ∈ xs ↔ u ∈ ys) : s = t := by
  by_contra hne
  exact (hs.2 t ((h t).2 ht.1) (Ne.symm hne)).asymm (ht.2 s ((h s).1 hs.1) hne)

theorem Slot.IsFirst.append {s u : Slot} {xs rest : List Slot} (hs : s.IsFirst xs) (hu : u.IsFirst (s :: rest)) :
    u.IsFirst (xs ++ rest) := by
  refine ⟨?_, fun v hv hne => ?_⟩
  · rcases List.mem_cons.1 hu.1 with rfl | hmem
    · exact List.mem_append_left _ hs.1
    · exact List.mem_append_right _ hmem
  · rcases List.mem_append.1 hv with hv | hv
    · by_cases hvs : v = s
      · exact hvs ▸ hu.2 s List.mem_cons_self (hvs ▸ hne)
      · by_cases hsu : s = u
        · exact hsu ▸ hs.2 v hv hvs
        · exact (hu.2 s List.mem_cons_self hsu).trans (hs.2 v hv hvs)
    · exact hu.2 v (List.mem_cons_of_mem _ hv) hne

theorem isFirst_keepFirst {best t : Slot} (h : best.Before t) :
    ∃ s, keepFirst (some best) t = some s ∧ s.IsFirst [best, t] := by
  rw [keepFirst]
  split
  · rename_i hlt
    exact ⟨t, rfl, by simp, by simpa using fun _ => .inl hlt⟩
  · rename_i hnot
    have hfirst : best.Precedes t := by
      unfold Slot.Precedes
      have := Int.lt_or_eq_of_le (Int.not_lt.1 hnot)
      tauto
    exact ⟨best, rfl, by simp, by simpa using fun _ => hfirst⟩

theorem isFirst_foldl {best : Slot} {slots : List Slot} (h : (best :: slots).Pairwise Slot.Before) :
    ∃ s, slots.foldl keepFirst (some best) = some s ∧ s.IsFirst (best :: slots) := by
  induction slots generalizing best with
  | nil => exact ⟨best, rfl, by simp, by simp⟩
  | cons t rest ih =>
      obtain ⟨hbest, hrest⟩ := List.pairwise_cons.1 h
      obtain ⟨s, hs, hfirst⟩ := isFirst_keepFirst (hbest t List.mem_cons_self)
      have hnext : (s :: rest).Pairwise Slot.Before := by
        rcases List.mem_pair.1 hfirst.1 with rfl | rfl
        · exact .cons (fun u hu => hbest u (List.mem_cons_of_mem _ hu)) hrest.of_cons
        · exact hrest
      obtain ⟨u, hu, hfirst'⟩ := ih hnext
      exact ⟨u, by rw [List.foldl_cons, hs, hu], hfirst.append hfirst'⟩

theorem next?_eq_none_iff {db : Database} : next? db = none ↔ pending db = [] := by
  rw [next?, earliest_eq_foldl, ← pending]
  cases h : pending db with
  | nil => simp
  | cons s rest =>
      obtain ⟨t, ht, -⟩ := isFirst_foldl (h ▸ pairwise_pending db)
      simp [keepFirst, ht]

theorem isFirst_of_next? {db : Database} {s : Slot} (h : next? db = some s) : s.IsFirst (pending db) := by
  rw [next?, earliest_eq_foldl, ← pending] at h
  cases hp : pending db with
  | nil => simp [hp] at h
  | cons t rest =>
      obtain ⟨u, hu, hfirst⟩ := isFirst_foldl (hp ▸ pairwise_pending db)
      rw [hp, List.foldl_cons, keepFirst, hu] at h
      cases h
      exact hfirst

theorem next?_eq_some_iff {db : Database} {s : Slot} : next? db = some s ↔ s.IsFirst (pending db) := by
  refine ⟨isFirst_of_next?, fun h => ?_⟩
  cases hn : next? db with
  | none =>
      rw [next?_eq_none_iff.1 hn] at h
      cases h.1
  | some t => rw [(isFirst_of_next? hn).unique h fun _ => Iff.rfl]

def Slot.inOrder (s t : Slot) : Bool := decide (s.order ≤ t.order)

theorem filter_mergeSort (slots : List Slot) (order : Int) :
    (slots.mergeSort Slot.inOrder).filter (·.order == order) = slots.filter (·.order == order) := by
  have htrans : ∀ a b c : Slot, a.inOrder b → b.inOrder c → a.inOrder c := by
    simp only [Slot.inOrder, decide_eq_true_eq]
    omega
  have htotal : ∀ a b : Slot, (a.inOrder b || b.inOrder a) = true := by
    simp only [Slot.inOrder, Bool.or_eq_true, decide_eq_true_eq]
    omega
  have hsorted : (slots.filter (·.order == order)).Pairwise fun a b => a.inOrder b = true := by
    refine List.pairwise_of_forall_mem_list fun a ha b hb => ?_
    simp only [List.mem_filter, beq_iff_eq] at ha hb
    simp [Slot.inOrder, ha.2, hb.2]
  have hsub := List.sublist_mergeSort htrans htotal hsorted List.filter_sublist
  have hsub' := hsub.filter (·.order == order)
  simp only [List.filter_filter, Bool.and_self] at hsub'
  refine (hsub'.eq_of_length ?_).symm
  exact ((List.mergeSort_perm slots Slot.inOrder).filter _).length_eq.symm

/-- Sorted by order, slots keep their places within one order. -/
theorem pairwise_mergeSort_pending (db : Database) :
    ((pending db).mergeSort Slot.inOrder).Pairwise Slot.Precedes := by
  have hsorted : ((pending db).mergeSort Slot.inOrder).Pairwise fun s t => s.inOrder t = true := by
    refine List.pairwise_mergeSort ?_ ?_ _
    · simp only [Slot.inOrder, decide_eq_true_eq]
      omega
    · simp only [Slot.inOrder, Bool.or_eq_true, decide_eq_true_eq]
      omega
  rw [List.pairwise_iff_forall_sublist] at hsorted ⊢
  intro s t hst
  have hle : s.order ≤ t.order := by simpa [Slot.inOrder] using hsorted hst
  rcases Int.lt_or_eq_of_le hle with hlt | heq
  · exact .inl hlt
  · have hfilter := hst.filter (·.order == t.order)
    rw [filter_mergeSort] at hfilter
    have hsub : [s, t].Sublist (pending db) := by
      simpa [heq] using hfilter.trans List.filter_sublist
    exact .inr ⟨heq, List.pairwise_iff_forall_sublist.1 (pairwise_pending db) hsub⟩

end Schedule

end Tablecraft
