import Tablecraft.Edit
import Tablecraft.Proofs.FirstMatch

namespace Tablecraft.Edit

open List

variable {σ τ α β : Type} {P : σ → Prop}

theorem except_map_eq_ok_iff {f : α → β} {x : Except Fault α} {b : β} :
    x.map f = .ok b ↔ ∃ a, x = .ok a ∧ f a = b := by
  cases x <;> simp [Except.map]

theorem except_bind_eq_ok_iff {f : α → Except Fault β} {x : Except Fault α} {b : β} :
    x >>= f = .ok b ↔ ∃ a, x = .ok a ∧ f a = .ok b := by
  cases x <;> simp [bind, Except.bind]

theorem except_toOption_eq_some_iff {x : Except Fault α} {a : α} : x.toOption = some a ↔ x = .ok a := by
  cases x <;> simp [Except.toOption]

theorem mapM_eq_ok_iff {f : α → Except Fault β} {xs : List α} {ys : List β} :
    xs.mapM f = .ok ys ↔ Forall₂ (fun x y => f x = .ok y) xs ys := by
  induction xs generalizing ys with
  | nil =>
      constructor
      · intro h
        cases h
        exact .nil
      · intro h
        cases h
        rfl
  | cons x rest ih =>
      rw [List.mapM_cons, except_bind_eq_ok_iff]
      constructor
      · rintro ⟨y, hy, h⟩
        obtain ⟨ys, hys, h⟩ := except_bind_eq_ok_iff.1 h
        cases h
        exact .cons hy (ih.1 hys)
      · intro h
        cases h with
        | cons hy hys => exact ⟨_, hy, by rw [ih.2 hys]; rfl⟩

theorem mapM_eq_of_forall₂ {R : α → τ → Prop} {f : α → Except Fault β} {g : τ → Except Fault β} {xs : List α}
    {ys : List τ} (h : Forall₂ R xs ys) (hfg : ∀ x y, R x y → f x = g y) : xs.mapM f = ys.mapM g := by
  induction h with
  | nil => rfl
  | cons hR _ ih => rw [List.mapM_cons, List.mapM_cons, hfg _ _ hR, ih]

theorem exists_mapM {f : α → Except Fault β} {xs : List α} (h : ∀ x ∈ xs, ∃ y, f x = .ok y) :
    ∃ ys, xs.mapM f = .ok ys := by
  induction xs with
  | nil => exact ⟨[], rfl⟩
  | cons x rest ih =>
      obtain ⟨⟨y, hy⟩, hrest⟩ := List.forall_mem_cons.1 h
      obtain ⟨ys, hys⟩ := ih hrest
      exact ⟨y :: ys, mapM_eq_ok_iff.2 (.cons hy (mapM_eq_ok_iff.1 hys))⟩

/-- The first element that fails decides the fault. -/
theorem mapM_eq_error {f : α → Except Fault β} {before after : List α} {x : α} {fault : Fault}
    (hbefore : ∀ y ∈ before, ∃ z, f y = .ok z) (hx : f x = .error fault) :
    (before ++ x :: after).mapM f = .error fault := by
  induction before with
  | nil =>
      rw [List.nil_append, List.mapM_cons, hx]
      rfl
  | cons y rest ih =>
      obtain ⟨⟨z, hz⟩, hrest⟩ := List.forall_mem_cons.1 hbefore
      rw [List.cons_append, List.mapM_cons, hz, ih hrest]
      rfl

theorem filterMap_of_mapM {f : α → Except Fault β} {g : α → Option β} {xs : List α} {ys : List β}
    (hfg : ∀ x y, f x = .ok y → g x = some y) (h : xs.mapM f = .ok ys) : xs.filterMap g = ys := by
  induction xs generalizing ys with
  | nil =>
      cases h
      rfl
  | cons x rest ih =>
      cases mapM_eq_ok_iff.1 h with
      | cons hy hys => rw [List.filterMap_cons_some (hfg _ _ hy), ih (mapM_eq_ok_iff.2 hys)]

theorem mapM_map {γ : Type} {f : α → Except Fault β} {g : β → γ} (xs : List α) :
    xs.mapM (fun x => (f x).map g) = (xs.mapM f).map (List.map g) := by
  induction xs with
  | nil => rfl
  | cons x rest ih =>
      rw [List.mapM_cons, List.mapM_cons, ih]
      cases f x with
      | error fault => rfl
      | ok y => cases rest.mapM f <;> rfl

theorem foldlM_keeps {f : σ → α → Except Fault σ} (h : ∀ s a t, P s → f s a = .ok t → P t)
    {xs : List α} {s t : σ} (hs : P s) (ht : xs.foldlM f s = .ok t) : P t := by
  induction xs generalizing s with
  | nil =>
      cases ht
      exact hs
  | cons x rest ih =>
      rw [List.foldlM_cons] at ht
      obtain ⟨u, hu, ht⟩ := except_bind_eq_ok_iff.1 ht
      exact ih (h s x u hs hu) ht

/-- The run ends on exactly this condition, and then with a result of this kind. -/
structure Yields (x : Except Fault α) (p : Prop) (R : α → Prop) : Prop where
  ends_iff : (∃ a, x = .ok a) ↔ p
  result {a : α} : x = .ok a → R a

namespace Yields

variable {p q : Prop} {R : α → Prop} {S : β → Prop} {x : Except Fault α}

theorem ok {a : α} (h : R a) : Yields (.ok a) True R where
  ends_iff := iff_of_true ⟨a, rfl⟩ trivial
  result ha := Except.ok.inj ha ▸ h

theorem imp {R' : α → Prop} (h : Yields x p R) (hp : p ↔ q) (hR : ∀ a, R a → R' a) : Yields x q R' where
  ends_iff := h.ends_iff.trans hp
  result ha := hR _ (h.result ha)

/-- A step that is refused on one condition only. -/
theorem refuse (c : Bool) (fault : Fault) (a : α) :
    Yields (if c then .error fault else .ok a) (c = false) (· = a) := by
  cases c with
  | false => exact (ok (R := (· = a)) rfl).imp (by simp) fun _ h => h
  | true => exact ⟨by simp, by simp⟩

/-- A chain ends if both parts do, the second on what the first left. -/
theorem bind {f : α → Except Fault β} (hx : Yields x p R) (hf : ∀ a, R a → Yields (f a) q S) :
    Yields (x >>= f) (p ∧ q) S where
  ends_iff := by
    constructor
    · rintro ⟨b, h⟩
      obtain ⟨a, ha, hb⟩ := except_bind_eq_ok_iff.1 h
      exact ⟨hx.ends_iff.1 ⟨a, ha⟩, (hf a (hx.result ha)).ends_iff.1 ⟨b, hb⟩⟩
    · rintro ⟨hp, hq⟩
      obtain ⟨a, ha⟩ := hx.ends_iff.2 hp
      obtain ⟨b, hb⟩ := (hf a (hx.result ha)).ends_iff.2 hq
      exact ⟨b, except_bind_eq_ok_iff.2 ⟨a, ha, hb⟩⟩
  result h := by
    obtain ⟨a, ha, hb⟩ := except_bind_eq_ok_iff.1 h
    exact (hf a (hx.result ha)).result hb

theorem map {f : α → β} (hx : Yields x p R) (hf : ∀ a, R a → S (f a)) : Yields (x.map f) p S where
  ends_iff := by
    rw [← hx.ends_iff]
    simp [except_map_eq_ok_iff]
  result h := by
    obtain ⟨a, ha, rfl⟩ := except_map_eq_ok_iff.1 h
    exact hf a (hx.result ha)

variable {step : σ → α → Except Fault σ} {I : σ → List α → Prop} {P : α → Prop} {Q : α → α → Prop} {s : σ}
  {seen xs : List α}

theorem foldlM_from
    (h : ∀ s seen a, I s seen → Yields (step s a) (P a ∧ ∀ x ∈ seen, Q x a) fun t => I t (seen ++ [a]))
    (hs : I s seen) :
    Yields (xs.foldlM step s) (((∀ x ∈ xs, P x) ∧ ∀ y ∈ seen, ∀ x ∈ xs, Q y x) ∧ xs.Pairwise Q)
      fun t => I t (seen ++ xs) := by
  induction xs generalizing s seen with
  | nil => exact (Yields.ok (R := fun t => I t seen) hs).imp (by simp) (by simp)
  | cons x rest ih =>
      rw [List.foldlM_cons]
      refine ((h s seen x hs).bind fun u hu => ih hu).imp ?_ (by simp)
      simp only [List.forall_mem_cons, List.pairwise_cons, List.forall_mem_append, forall_and]
      tauto

/-- The list goes in if its elements are right in themselves and beside earlier ones. -/
theorem foldlM
    (h : ∀ s seen a, I s seen → Yields (step s a) (P a ∧ ∀ x ∈ seen, Q x a) fun t => I t (seen ++ [a]))
    (hs : I s []) :
    Yields (xs.foldlM step s) ((∀ x ∈ xs, P x) ∧ xs.Pairwise Q) fun t => I t xs :=
  (foldlM_from h hs).imp (by simp) (by simp)

theorem foldlM_forall (h : ∀ s seen a, I s seen → Yields (step s a) (P a) fun t => I t (seen ++ [a]))
    (hs : I s []) :
    Yields (xs.foldlM step s) (∀ x ∈ xs, P x) fun t => I t xs := by
  have hfold : Yields (xs.foldlM step s) ((∀ x ∈ xs, P x) ∧ xs.Pairwise fun _ _ => True) fun t => I t xs :=
    foldlM (fun s seen a hs => (h s seen a hs).imp (by simp) fun _ h => h) hs
  exact hfold.imp (and_iff_left (List.pairwise_of_forall fun _ _ => trivial)) fun _ h => h

end Yields

theorem bind_eq_ok_iff {x : Edit σ α} {f : α → Edit σ β} {b : β} {s t : σ} :
    (x >>= f) s = .ok b t ↔ ∃ a u, x s = .ok a u ∧ f a u = .ok b t := by
  change EStateM.bind x f s = _ ↔ _
  cases h : x s <;> simp [EStateM.bind, h]

theorem result_eq_ok_iff {edit : Edit σ Unit} {s t : σ} :
    edit.result s = .ok t ↔ edit s = .ok () t := by
  cases h : edit s <;> simp [result, h]

theorem exists_eq_ok {edit : Edit σ Unit} {s : σ} (h : (edit.result s).toOption.isSome = true) :
    ∃ t, edit s = .ok () t := by
  obtain ⟨t, ht⟩ := Option.isSome_iff_exists.1 h
  exact ⟨t, result_eq_ok_iff.1 (except_toOption_eq_some_iff.1 ht)⟩

theorem exists_eq_error {edit : Edit σ Unit} {s : σ} (h : (edit.result s).toOption.isNone = true) :
    ∃ fault t, edit s = .error fault t := by
  cases hs : edit s with
  | error fault t => exact ⟨fault, t, rfl⟩
  | ok _ t => simp [result, hs, Except.toOption] at h

theorem after_of_ok {edit : Edit σ Unit} {s t : σ} (h : edit s = .ok () t) : edit.after s = t := by
  simp [after, h]

theorem attempt_eq_ok_iff {f : σ → Except Fault σ} {s t : σ} :
    attempt f s = .ok () t ↔ f s = .ok t := by
  cases h : f s <;> simp [attempt, h]

theorem each_eq_ok {edit : Edit σ Unit} {xs ys : List σ} (h : each edit xs = .ok () ys) :
    Forall₂ (fun x y => edit x = .ok () y) xs ys := by
  induction xs generalizing ys with
  | nil =>
      cases h
      exact .nil
  | cons x rest ih =>
      cases hx : edit x with
      | error fault y => simp [each, hx] at h
      | ok _ y =>
          cases hr : each edit rest with
          | error fault zs => simp [each, hx, hr] at h
          | ok _ zs =>
              obtain rfl : y :: zs = ys := by simpa [each, hx, hr] using h
              exact .cons hx (ih hr)

theorem first_eq_ok {edit : Edit σ Unit} {p : σ → Bool} {xs ys : List σ} (hx : xs.any p = true)
    (h : first p edit xs = .ok () ys) :
    ∃ before x y after, xs = before ++ x :: after ∧ ys = before ++ y :: after ∧ p x = true ∧
      edit x = .ok () y := by
  induction xs generalizing ys with
  | nil => cases hx
  | cons x rest ih =>
      by_cases hp : p x = true
      · cases he : edit x with
        | error fault y => simp [first, hp, he] at h
        | ok _ y =>
            obtain rfl : y :: rest = ys := by simpa [first, hp, he] using h
            exact ⟨[], x, y, rest, rfl, rfl, hp, he⟩
      · have hrest : rest.any p = true := by simpa [hp] using hx
        cases hr : first p edit rest with
        | error fault zs => simp [first, hp, hr] at h
        | ok _ zs =>
            obtain rfl : x :: zs = ys := by simpa [first, hp, hr] using h
            obtain ⟨before, y, z, after, rfl, rfl, hy, hz⟩ := ih hrest hr
            exact ⟨x :: before, y, z, after, rfl, rfl, hy, hz⟩

/-- The state after the edit has the property if the state before has it, whatever the outcome. -/
def Keeps (P : σ → Prop) (edit : Edit σ Unit) : Prop := ∀ s, P s → P (edit.after s)

theorem Keeps.of_ok {edit : Edit σ Unit} {s t : σ} (h : Keeps P edit) (ht : edit s = .ok () t)
    (hs : P s) : P t :=
  after_of_ok ht ▸ h s hs

theorem Keeps.pure : Keeps P (pure ()) := fun _ hs => hs

theorem Keeps.bind {x : Edit σ Unit} {f : Unit → Edit σ Unit} (hx : Keeps P x)
    (hf : ∀ a, Keeps P (f a)) : Keeps P (x >>= f) := by
  intro s hs
  have hu := hx s hs
  change P (after (EStateM.bind x f) s)
  cases h : x s with
  | ok a u =>
      rw [after_of_ok h] at hu
      simpa [after, EStateM.bind, h] using hf a u hu
  | error fault u => simpa [after, EStateM.bind, h] using hu

theorem Keeps.succeed {f : σ → σ} (h : ∀ s, P s → P (f s)) : Keeps P (succeed f) := h

theorem Keeps.attempt {f : σ → Except Fault σ} (h : ∀ s t, P s → f s = .ok t → P t) :
    Keeps P (attempt f) := by
  intro s hs
  cases ht : f s with
  | ok t => simpa [after, Edit.attempt, ht] using h s t hs ht
  | error fault => simpa [after, Edit.attempt, ht] using hs

theorem after_within (part : τ → σ) (replace : τ → σ → τ) (edit : Edit σ Unit) (s : τ) :
    (within part replace edit).after s = replace s (edit.after (part s)) := by
  cases h : edit (part s) <;> simp [within, after, h]

theorem Keeps.first {R : τ → σ → Prop} {edit : Edit σ Unit} (p : σ → Bool) {xs : List τ}
    (h : ∀ x, Keeps (R x) edit) : Keeps (Forall₂ R xs) (first p edit) := by
  intro ys hys
  induction hys with
  | nil => exact .nil
  | @cons x y xs ys hR ht ih =>
      have hy := h x y hR
      by_cases hp : p y = true
      · cases he : edit y <;> simp_all [after, Edit.first]
      · cases he : Edit.first p edit ys <;> simp_all [after, Edit.first]

theorem Keeps.first_forall {edit : Edit σ Unit} (h : Keeps P edit) (p : σ → Bool) :
    Keeps (fun xs => ∀ x ∈ xs, P x) (Edit.first p edit) := by
  intro xs hxs
  induction xs with
  | nil => exact hxs
  | cons x rest ih =>
      obtain ⟨hx, hrest⟩ := List.forall_mem_cons.1 hxs
      have hy := h x hx
      have hys := ih hrest
      by_cases hp : p x = true
      · cases he : edit x <;> simp_all [after, Edit.first]
      · cases he : Edit.first p edit rest <;> simp_all [after, Edit.first]

theorem first_attempt (q : σ → Bool) (g : σ → Except Fault σ) (xs : List σ) :
    first q (attempt g) xs = match xs.find? q with
      | none => .ok () xs
      | some x => match g x with
        | .ok y => .ok () (FirstMatch.modify q (fun _ => y) xs)
        | .error fault => .error fault xs := by
  induction xs with
  | nil => rfl
  | cons x rest ih =>
      by_cases hx : q x = true
      · rw [List.find?_cons_of_pos hx, first, if_pos hx, attempt]
        cases hg : g x <;> simp [FirstMatch.modify, hx, hg]
      · rw [List.find?_cons_of_neg hx, first, if_neg hx, ih]
        cases rest.find? q with
        | none => rfl
        | some y =>
            dsimp only
            cases hg : g y <;> simp [FirstMatch.modify, hx]

def SameOutcome {σ τ : Type} (R : σ → τ → Prop) : Except Fault σ → Except Fault τ → Prop
  | .ok s, .ok t => R s t
  | .error fault, .error fault' => fault = fault'
  | _, _ => False

theorem SameOutcome.bind {σ τ α β : Type} {R : σ → τ → Prop} {S : α → β → Prop} {a : Except Fault σ}
    {b : Except Fault τ} {g : σ → Except Fault α} {h : τ → Except Fault β} (hab : SameOutcome R a b)
    (hgh : ∀ s t, R s t → SameOutcome S (g s) (h t)) : SameOutcome S (a >>= g) (b >>= h) := by
  cases a with
  | error fault => cases b with
    | error fault' => exact hab
    | ok t => exact hab.elim
  | ok s => cases b with
    | error fault' => exact hab.elim
    | ok t => exact hgh s t hab

theorem SameOutcome.map {σ τ α β : Type} {R : σ → τ → Prop} {S : α → β → Prop} {a : Except Fault σ}
    {b : Except Fault τ} {g : σ → α} {h : τ → β} (hab : SameOutcome R a b)
    (hgh : ∀ s t, a = .ok s → b = .ok t → R s t → S (g s) (h t)) : SameOutcome S (a.map g) (b.map h) := by
  cases a with
  | error fault => cases b with
    | error fault' => exact hab
    | ok t => exact hab.elim
  | ok s => cases b with
    | error fault' => exact hab.elim
    | ok t => exact hgh s t rfl rfl hab

theorem SameOutcome.imp {σ τ : Type} {R S : σ → τ → Prop} {a : Except Fault σ} {b : Except Fault τ}
    (hab : SameOutcome R a b) (h : ∀ s t, R s t → S s t) : SameOutcome S a b := by
  cases a <;> cases b <;> first | exact h _ _ hab | exact hab

theorem sameOutcome_eq_iff {σ : Type} {a b : Except Fault σ} : SameOutcome Eq a b ↔ a = b := by
  cases a <;> cases b <;> simp [SameOutcome]

theorem sameOutcome_of_map_eq {σ τ α : Type} {a : Except Fault σ} {b : Except Fault τ} {f : σ → α} {g : τ → α}
    (h : a.map f = b.map g) : SameOutcome (fun s t => f s = g t) a b := by
  cases a with
  | error fault => cases b with
    | error fault' => exact Except.error.inj h
    | ok t => cases h
  | ok s => cases b with
    | error fault' => cases h
    | ok t => exact Except.ok.inj h

theorem result_bind {σ : Type} (a : Edit σ Unit) (b : Unit → Edit σ Unit) (s : σ) :
    (a >>= b).result s = a.result s >>= (b ()).result := by
  change result (EStateM.bind a b) s = _
  unfold result EStateM.bind
  cases a s <;> rfl

end Tablecraft.Edit
