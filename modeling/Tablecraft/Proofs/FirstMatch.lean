import Mathlib.Data.List.Forall2
import Tablecraft.FirstMatch

namespace Tablecraft.FirstMatch

open List

variable {α β : Type} {R : α → β → Prop} {xs : List α} {ys : List β}

theorem modify_eq_modify {p : α → Bool} (f : α → α) {i : Nat} (h : xs.findIdx? p = some i) :
    modify p f xs = xs.modify i f := by
  induction xs generalizing i with
  | nil => simp [modify]
  | cons x rest ih =>
      rw [List.findIdx?_cons] at h
      by_cases hp : p x = true
      · obtain rfl : 0 = i := by simpa [hp] using h
        simp [modify, hp]
      · obtain ⟨j, hj, rfl⟩ : ∃ j, rest.findIdx? p = some j ∧ j + 1 = i := by
          simpa [hp] using h
        simp [modify, hp, ih hj]

theorem modify_eq_self {p : α → Bool} (f : α → α) (h : xs.findIdx? p = none) :
    modify p f xs = xs := by
  induction xs with
  | nil => rfl
  | cons x rest ih =>
      have hn : p x = false ∧ rest.findIdx? p = none := by simpa using h
      simp [modify, hn.1, ih hn.2]

theorem modify_congr_of_find? {p : α → Bool} {f g : α → α} {x : α} (h : xs.find? p = some x) (hfg : f x = g x) :
    modify p f xs = modify p g xs := by
  induction xs with
  | nil => rfl
  | cons y rest ih =>
      by_cases hp : p y = true
      · obtain rfl : y = x := by simpa [hp] using h
        simp [modify, hp, hfg]
      · simpa [modify, hp] using ih (by simpa [hp] using h)

theorem modify_eq_self_of_find? {p : α → Bool} {f : α → α} {x : α} (h : xs.find? p = some x)
    (hf : f x = x) : modify p f xs = xs := by
  induction xs with
  | nil => rfl
  | cons y rest ih =>
      by_cases hp : p y = true
      · obtain rfl : y = x := by simpa [hp] using h
        simp [modify, hp, hf]
      · simpa [modify, hp] using ih (by simpa [hp] using h)

theorem modify_comm {q r : α → Bool} {g : α → α} (hq : ∀ x, q (g x) = q x)
    (hr : ∀ x, r (g x) = r x) (xs : List α) : modify q g (modify r g xs) = modify r g (modify q g xs) := by
  induction xs with
  | nil => rfl
  | cons x rest ih =>
      by_cases hx : q x = true
      · by_cases hy : r x = true
        · simp [modify, hx, hy, hq, hr]
        · simp [modify, hx, hy, hr]
      · by_cases hy : r x = true
        · simp [modify, hx, hy, hq]
        · simp [modify, hx, hy, ih]

/-- Where only one element can match, it may be looked for everywhere. -/
theorem modify_eq_map {p : α → Bool} (f : α → α) (h : xs.Pairwise fun x y => p x = true → p y = false) :
    modify p f xs = xs.map fun x => if p x = true then f x else x := by
  induction xs with
  | nil => rfl
  | cons x rest ih =>
      obtain ⟨hx, hrest⟩ := List.pairwise_cons.1 h
      by_cases hp : p x = true
      · have hself : rest.map (fun y => if p y = true then f y else y) = rest :=
          (List.map_congr_left fun y hy => by simp [hx y hy hp]).trans (List.map_id' _)
        simp [modify, hp, hself]
      · simp [modify, hp, ih hrest]

theorem find?_modify {p : α → Bool} {f : α → α} (hf : ∀ x, p x = true → p (f x) = true) :
    (modify p f xs).find? p = (xs.find? p).map f := by
  induction xs with
  | nil => rfl
  | cons x rest ih =>
      by_cases hp : p x = true
      · simp [modify, hp, hf x hp]
      · simp [modify, hp, ih]

theorem of_getElem?_modify {p : α → Bool} {f : α → α} {i : Nat} {y : α}
    (h : (modify p f xs)[i]? = some y) :
    xs[i]? = some y ∨ ∃ x, xs[i]? = some x ∧ xs.findIdx? p = some i ∧ y = f x := by
  cases hp : xs.findIdx? p with
  | none => exact .inl (modify_eq_self f hp ▸ h)
  | some j =>
      rw [modify_eq_modify f hp, List.getElem?_modify] at h
      obtain ⟨x, hx, rfl⟩ := Option.map_eq_some_iff.1 h
      by_cases hj : j = i
      · exact .inr ⟨x, hx, by rw [hj], by simp [hj]⟩
      · exact .inl (by simpa [hj] using hx)

theorem mem_modify {p : α → Bool} {f : α → α} {y : α} (h : y ∈ modify p f xs) :
    y ∈ xs ∨ ∃ x ∈ xs, p x = true ∧ y = f x := by
  induction xs with
  | nil => exact .inl h
  | cons x rest ih =>
      by_cases hp : p x = true
      · rcases (by simpa [modify, hp] using h : y = f x ∨ y ∈ rest) with rfl | hm
        · exact .inr ⟨x, by simp, hp, rfl⟩
        · exact .inl (List.mem_cons_of_mem _ hm)
      · rcases (by simpa [modify, hp] using h : y = x ∨ y ∈ modify p f rest) with rfl | hm
        · exact .inl (by simp)
        · refine (ih hm).imp (List.mem_cons_of_mem _) ?_
          rintro ⟨z, hz, hpz, rfl⟩
          exact ⟨z, List.mem_cons_of_mem _ hz, hpz, rfl⟩

theorem mem_of_extract? {p : α → Bool} {x : α} {rest : List α} (h : extract? p xs = some (x, rest)) :
    x ∈ xs ∧ rest.Sublist xs := by
  induction xs generalizing rest with
  | nil => simp [extract?] at h
  | cons y ys ih =>
      by_cases hp : p y = true
      · obtain ⟨rfl, rfl⟩ : y = x ∧ ys = rest := by simpa [extract?, hp] using h
        exact ⟨by simp, List.sublist_cons_self _ _⟩
      · obtain ⟨zs, hz, rfl⟩ : ∃ zs, extract? p ys = some (x, zs) ∧ y :: zs = rest := by
          simpa [extract?, hp] using h
        obtain ⟨hm, hs⟩ := ih hz
        exact ⟨List.mem_cons_of_mem _ hm, hs.cons_cons _⟩

theorem perm_of_extract? {p : α → Bool} {x : α} {rest : List α}
    (h : extract? p xs = some (x, rest)) : p x = true ∧ xs.Perm (x :: rest) := by
  induction xs generalizing rest with
  | nil => cases h
  | cons y ys ih =>
      by_cases hp : p y = true
      · obtain ⟨rfl, rfl⟩ : y = x ∧ ys = rest := by simpa [extract?, hp] using h
        exact ⟨hp, .refl _⟩
      · obtain ⟨zs, hz, rfl⟩ : ∃ zs, extract? p ys = some (x, zs) ∧ y :: zs = rest := by
          simpa [extract?, hp] using h
        obtain ⟨hx, hperm⟩ := ih hz
        exact ⟨hx, (hperm.cons y).trans (.swap x y zs)⟩

theorem find?_eq_getElem? (p : α → Bool) (xs : List α) :
    xs.find? p = (xs.findIdx? p).bind fun i => xs[i]? := by
  induction xs with
  | nil => rfl
  | cons x rest ih =>
      rw [List.findIdx?_cons]
      by_cases hp : p x = true
      · simp [hp]
      · simp only [List.find?_cons_of_neg hp, ih, if_neg hp, Option.bind_map]
        rfl

theorem exists_of_getElem? (h : Forall₂ R xs ys) {i : Nat} {x : α} (hx : xs[i]? = some x) :
    ∃ y, ys[i]? = some y ∧ R x y := by
  induction h generalizing i with
  | nil => simp at hx
  | cons hR _ ih =>
      cases i with
      | zero => exact ⟨_, rfl, by simpa using (by simpa using hx : _ = x) ▸ hR⟩
      | succ i => simpa using ih (by simpa using hx)

theorem exists_of_getElem?' (h : Forall₂ R xs ys) {i : Nat} {y : β} (hy : ys[i]? = some y) :
    ∃ x, xs[i]? = some x ∧ R x y := by
  obtain ⟨x, hx, hR⟩ := exists_of_getElem? (R := fun y x => R x y) h.flip hy
  exact ⟨x, hx, hR⟩

theorem forall₂_trans {γ : Type} {S : β → γ → Prop} {T : α → γ → Prop} {zs : List γ}
    (hR : ∀ x y z, R x y → S y z → T x z) (h : Forall₂ R xs ys) (h' : Forall₂ S ys zs) :
    Forall₂ T xs zs := by
  induction h generalizing zs with
  | nil =>
      cases h'
      exact .nil
  | cons hr _ ih =>
      cases h' with
      | cons hs ht => exact .cons (hR _ _ _ hr hs) (ih ht)

theorem forall₂_and {S : α → β → Prop} (h : Forall₂ R xs ys) (h' : Forall₂ S xs ys) :
    Forall₂ (fun x y => R x y ∧ S x y) xs ys := by
  induction h with
  | nil => exact .nil
  | cons hR _ ih =>
      cases h' with
      | cons hS hrest => exact .cons ⟨hR, hS⟩ (ih hrest)

theorem exists_of_mem (h : Forall₂ R xs ys) {x : α} (hx : x ∈ xs) : ∃ y ∈ ys, R x y := by
  obtain ⟨i, hi⟩ := List.mem_iff_getElem?.1 hx
  obtain ⟨y, hy, hR⟩ := exists_of_getElem? h hi
  exact ⟨y, List.mem_of_getElem? hy, hR⟩

theorem exists_of_mem' (h : Forall₂ R xs ys) {y : β} (hy : y ∈ ys) : ∃ x ∈ xs, R x y := by
  obtain ⟨i, hi⟩ := List.mem_iff_getElem?.1 hy
  obtain ⟨x, hx, hR⟩ := exists_of_getElem?' h hi
  exact ⟨x, List.mem_of_getElem? hx, hR⟩

theorem map_eq_of_forall₂ {γ : Type} (h : Forall₂ R xs ys) {f : α → γ} {g : β → γ}
    (hfg : ∀ x y, R x y → g y = f x) : ys.map g = xs.map f := by
  induction h with
  | nil => rfl
  | cons hR _ ih => rw [List.map_cons, List.map_cons, hfg _ _ hR, ih]

theorem filterMap_eq_of_forall₂ {γ : Type} (h : Forall₂ R xs ys) {f : α → Option γ} {g : β → Option γ}
    (hfg : ∀ x y, R x y → f x = g y) : xs.filterMap f = ys.filterMap g := by
  induction h with
  | nil => rfl
  | cons hR _ ih => rw [List.filterMap_cons, List.filterMap_cons, hfg _ _ hR, ih]

theorem findIdx?_eq_of_forall₂ (h : Forall₂ R xs ys) {p : α → Bool} {q : β → Bool}
    (hpq : ∀ x y, R x y → p x = q y) : xs.findIdx? p = ys.findIdx? q := by
  induction h with
  | nil => rfl
  | cons hR _ ih => rw [List.findIdx?_cons, List.findIdx?_cons, hpq _ _ hR, ih]

theorem exists_of_find? (h : Forall₂ R xs ys) {p : α → Bool} {q : β → Bool}
    (hpq : ∀ x y, R x y → p x = q y) {x : α} (hx : xs.find? p = some x) :
    ∃ y, ys.find? q = some y ∧ R x y := by
  induction h with
  | nil => simp at hx
  | @cons a b _ _ hR _ ih =>
      by_cases hp : p a = true
      · obtain rfl : a = x := by simpa [hp] using hx
        exact ⟨b, by simp [← hpq _ _ hR, hp], hR⟩
      · obtain ⟨y, hy, hr⟩ := ih (by simpa [hp] using hx)
        exact ⟨y, by simpa [← hpq _ _ hR, hp] using hy, hr⟩

theorem exists_of_find?' (h : Forall₂ R xs ys) {p : α → Bool} {q : β → Bool}
    (hpq : ∀ x y, R x y → p x = q y) {y : β} (hy : ys.find? q = some y) :
    ∃ x, xs.find? p = some x ∧ R x y := by
  obtain ⟨x, hx, hR⟩ := exists_of_find? (R := fun y x => R x y) h.flip (fun y x hR => (hpq x y hR).symm) hy
  exact ⟨x, hx, hR⟩

theorem forall₂_modify (h : Forall₂ R xs ys) (p : β → Bool) (f : β → β)
    (hf : ∀ x y, R x y → R x (f y)) : Forall₂ R xs (modify p f ys) := by
  induction h with
  | nil => exact .nil
  | @cons _ y _ _ hR ht ih =>
      by_cases hp : p y = true
      · simpa [modify, hp] using ⟨hf _ _ hR, ht⟩
      · simpa [modify, hp] using ⟨hR, ih⟩

theorem rel_modify {γ : Type} {S : α → γ → Prop} {zs : List γ} (h : Forall₂ S xs zs) {p : α → Bool} {q : γ → Bool}
    {f : α → α} {g : γ → γ} (hpq : ∀ x z, S x z → p x = q z) (hfg : ∀ x z, S x z → S (f x) (g z)) :
    Forall₂ S (modify p f xs) (modify q g zs) := by
  induction h with
  | nil => exact .nil
  | @cons x z _ _ hS ht ih =>
      by_cases hp : p x = true
      · have hq : q z = true := hpq x z hS ▸ hp
        simpa [modify, hp, hq] using ⟨hfg x z hS, ht⟩
      · have hq : ¬q z = true := hpq x z hS ▸ hp
        simpa [modify, hp, hq] using ⟨hS, ih⟩

/-- Two changes that the searches do not notice can trade places as far as they do at one element. -/
theorem forall₂_modify_modify {S : α → α → Prop} {p q : α → Bool} {f g : α → α} (hS : ∀ x, S x x)
    (hp : ∀ x, p (g x) = p x) (hq : ∀ x, q (f x) = q x) (hfg : ∀ x, S (f (g x)) (g (f x))) (xs : List α) :
    Forall₂ S (modify p f (modify q g xs)) (modify q g (modify p f xs)) := by
  induction xs with
  | nil => exact .nil
  | cons x rest ih =>
      by_cases hx : q x = true <;> by_cases hy : p x = true
      · simpa [modify, hx, hy, hp, hq] using ⟨hfg x, fun y _ => hS y⟩
      · simpa [modify, hx, hy, hp] using ⟨hS _, fun y _ => hS y⟩
      · simpa [modify, hx, hy, hq] using ⟨hS _, fun y _ => hS y⟩
      · simpa [modify, hx, hy] using ⟨hS x, ih⟩

theorem forall₂_listModify (h : Forall₂ R xs ys) (i : Nat) (f : β → β)
    (hf : ∀ x y, xs[i]? = some x → ys[i]? = some y → R x y → R x (f y)) :
    Forall₂ R xs (ys.modify i f) := by
  induction h generalizing i with
  | nil => simp
  | cons hR ht ih =>
      cases i with
      | zero => exact .cons (hf _ _ rfl rfl hR) ht
      | succ i => exact .cons hR (ih i fun x y hx hy => hf x y (by simpa using hx) (by simpa using hy))

theorem listModify_eq_self {f : α → α} {i : Nat} {x : α} (h : xs[i]? = some x) (hf : f x = x) :
    xs.modify i f = xs := by
  refine List.ext_getElem? fun j => ?_
  rw [List.getElem?_modify]
  by_cases hj : i = j
  · subst hj
    simp [h, hf]
  · simp [hj]

theorem listModify_append (f : α → α) (xs : List α) (x : α) (zs : List α) :
    (xs ++ x :: zs).modify xs.length f = xs ++ f x :: zs := by
  induction xs with
  | nil => rfl
  | cons y rest ih => simpa using ih

theorem mem_listModify {f : α → α} {i : Nat} {y : α} (h : y ∈ xs.modify i f) : ∃ x ∈ xs, y = x ∨ y = f x := by
  obtain ⟨j, hj⟩ := List.mem_iff_getElem?.1 h
  rw [List.getElem?_modify] at hj
  obtain ⟨x, hx, rfl⟩ := Option.map_eq_some_iff.1 hj
  refine ⟨x, List.mem_of_getElem? hx, ?_⟩
  split
  · exact .inr rfl
  · exact .inl rfl

theorem forall_mem_listModify_iff {P : α → Prop} {f : α → α} {i : Nat} (h : ∀ x ∈ xs, P x) :
    (∀ y ∈ xs.modify i f, P y) ↔ ∀ x ∈ xs[i]?, P (f x) := by
  constructor
  · intro hall x hx
    refine hall (f x) (List.mem_iff_getElem?.2 ⟨i, ?_⟩)
    rw [List.getElem?_modify_eq, hx]
    rfl
  · intro hchanged y hy
    obtain ⟨j, hj⟩ := List.mem_iff_getElem?.1 hy
    rw [List.getElem?_modify] at hj
    obtain ⟨x, hx, rfl⟩ := Option.map_eq_some_iff.1 hj
    split
    · rename_i hij
      exact hchanged x (hij ▸ hx)
    · exact h x (List.mem_of_getElem? hx)

theorem forall₂_modify_self {R : α → α → Prop} {q : α → Bool} {g : α → α}
    (hR : ∀ x, R x x) (hg : ∀ x, xs.find? q = some x → R x (g x)) : Forall₂ R xs (modify q g xs) := by
  induction xs with
  | nil => exact .nil
  | cons x rest ih =>
      by_cases hx : q x = true
      · rw [modify, if_pos hx]
        exact .cons (hg x (List.find?_cons_of_pos hx)) (forall₂_same.2 fun y _ => hR y)
      · rw [modify, if_neg hx]
        exact .cons (hR x) (ih fun y hy => hg y ((List.find?_cons_of_neg hx).trans hy))

theorem rel_extract? (h : Forall₂ R xs ys)
    {q : α → Bool} {r : β → Bool} (hq : ∀ x y, R x y → q x = r y) :
    Option.Rel (fun a b => R a.1 b.1 ∧ Forall₂ R a.2 b.2) (extract? q xs) (extract? r ys) := by
  induction h with
  | nil => exact .none
  | @cons x y xs ys hR ht ih =>
      by_cases hx : q x = true
      · have hy : r y = true := hq x y hR ▸ hx
        simpa [extract?, hx, hy] using Option.Rel.some ⟨hR, ht⟩
      · have hy : ¬r y = true := hq x y hR ▸ hx
        simp only [extract?, hx, hy]
        generalize extract? q xs = a at ih ⊢
        generalize extract? r ys = b at ih ⊢
        cases ih with
        | none => exact .none
        | some h => exact .some ⟨h.1, .cons hR h.2⟩

theorem forall₂_of_map_eq {v : α → β} {xs ys : List α} (h : xs.map v = ys.map v) :
    Forall₂ (fun x y => v x = v y) xs ys :=
  List.forall₂_map_left_iff.1 (List.forall₂_map_right_iff.1 (List.forall₂_eq_eq_eq ▸ h))

theorem map_map_congr {v : α → β} {g : α → α} {xs ys : List α}
    (hg : ∀ x y, v x = v y → v (g x) = v (g y)) (h : xs.map v = ys.map v) :
    (xs.map g).map v = (ys.map g).map v := by
  rw [List.map_map, List.map_map]
  exact (map_eq_of_forall₂ (forall₂_of_map_eq h) fun x y hxy => (hg x y hxy).symm).symm

end Tablecraft.FirstMatch
