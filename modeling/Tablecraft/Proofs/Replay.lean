import Tablecraft.Proofs.Model.Related

namespace Tablecraft

open List

namespace Edit

variable {σ : Type} {D D' J P : σ → Prop} {x y : Edit σ Unit} {s t : σ} {fault : Fault}

/-- Where the edit ends its work is done, and where that is done the edit changes nothing. -/
structure Establishes (D : σ → Prop) (edit : Edit σ Unit) : Prop where
  done {s t : σ} : edit s = .ok () t → D t
  idle {s : σ} : D s → edit s = .ok () s

def Repeats (J : σ → Prop) (edit : Edit σ Unit) : Prop :=
  ∀ ⦃s t fault⦄, J s → edit s = .error fault t → edit t = .error fault t

/-- An edit that stays within a relation keeps what the relation keeps. -/
theorem Keeps.of_rel {R : σ → σ → Prop} (hx : ∀ s, Keeps (R s) x) (hR : ∀ s, R s s)
    (hP : ∀ s t, R s t → P s → P t) : Keeps P x :=
  fun s hs => hP s _ (hx s s (hR s)) hs

theorem after_of_error (h : x s = .error fault t) : x.after s = t := by
  simp [after, h]

theorem Keeps.of_error (h : Keeps P x) (ht : x s = .error fault t) (hs : P s) : P t :=
  after_of_error ht ▸ h s hs

theorem bind_eq_of_ok (h : x s = .ok () t) : (x >>= fun _ => y) s = y t := by
  change EStateM.bind x _ s = _
  simp [EStateM.bind, h]

theorem bind_eq_of_error (h : x s = .error fault t) : (x >>= fun _ => y) s = .error fault t := by
  change EStateM.bind x _ s = _
  simp [EStateM.bind, h]

theorem bind_eq_error_iff :
    (x >>= fun _ => y) s = .error fault t ↔
      x s = .error fault t ∨ ∃ u, x s = .ok () u ∧ y u = .error fault t := by
  cases h : x s with
  | ok a u => simp [bind_eq_of_ok h]
  | error f u => simp [bind_eq_of_error h]

theorem Establishes.imp (h : Establishes D x) (hD : ∀ s, D' s ↔ D s) : Establishes D' x where
  done hx := (hD _).2 (h.done hx)
  idle hs := h.idle ((hD _).1 hs)

theorem Establishes.pure : Establishes (fun _ : σ => True) (pure ()) where
  done _ := trivial
  idle _ := rfl

theorem Establishes.bind (hx : Establishes D x) (hy : Establishes D' y) (hD : Keeps D y) :
    Establishes (fun s => D s ∧ D' s) (x >>= fun _ => y) where
  done h := by
    obtain ⟨_, u, hu, ht⟩ := bind_eq_ok_iff.1 h
    exact ⟨hD.of_ok ht (hx.done hu), hy.done ht⟩
  idle h := by
    rw [bind_eq_of_ok (hx.idle h.1)]
    exact hy.idle h.2

theorem Establishes.succeed {f : σ → σ} (hf : ∀ s, D (f s)) (hD : ∀ s, D s → f s = s) :
    Establishes D (succeed f) where
  done h := by
    cases h
    exact hf _
  idle h := by rw [Edit.succeed, hD _ h]

theorem Establishes.attempt {f : σ → Except Fault σ} (hf : ∀ s t, f s = .ok t → D t)
    (hD : ∀ s, D s → f s = .ok s) : Establishes D (attempt f) where
  done h := hf _ _ (attempt_eq_ok_iff.1 h)
  idle h := attempt_eq_ok_iff.2 (hD _ h)

theorem Repeats.pure : Repeats J (pure ()) := by
  intro s t fault _ h
  cases h

theorem Repeats.succeed (f : σ → σ) : Repeats J (succeed f) := by
  intro s t fault _ h
  cases h

theorem Repeats.of_stays (h : ∀ s t fault, J s → x s = .error fault t → t = s) : Repeats J x := by
  intro s t fault hJ hx
  obtain rfl := h s t fault hJ hx
  exact hx

theorem Repeats.attempt (f : σ → Except Fault σ) : Repeats J (attempt f) := by
  refine .of_stays fun s t fault _ h => ?_
  cases hf : f s with
  | ok u => simp [Edit.attempt, hf] at h
  | error fault' => simpa [Edit.attempt, hf, eq_comm] using (by simpa [Edit.attempt, hf] using h : _ ∧ _).2

theorem Repeats.bind (hx : Repeats J x) (he : Establishes D x) (hJ : Keeps J x) (hy : Repeats J y)
    (hD : Keeps D y) : Repeats J (x >>= fun _ => y) := by
  intro s t fault hs h
  rcases bind_eq_error_iff.1 h with h | ⟨u, hu, ht⟩
  · exact bind_eq_of_error (hx hs h)
  · -- the first edit has nothing left to do, so the second one starts where it stopped
    have hdone : D t := hD.of_error ht (he.done hu)
    rw [bind_eq_of_ok (he.idle hdone)]
    exact hy (hJ.of_ok hu hs) ht

/-- The elements before the one that stopped are done, and those after it were not reached. -/
theorem Repeats.each (hok : ∀ s t, J s → x s = .ok () t → x t = .ok () t) (h : Repeats J x) :
    Repeats (fun xs => ∀ s ∈ xs, J s) (each x) := by
  intro xs ys fault hJ hx
  induction xs generalizing ys with
  | nil => cases hx
  | cons a rest ih =>
      obtain ⟨ha, hrest⟩ := List.forall_mem_cons.1 hJ
      cases hr : x a with
      | error fault' b =>
          obtain ⟨rfl, rfl⟩ : fault' = fault ∧ b :: rest = ys := by simpa [Edit.each, hr] using hx
          simp [Edit.each, h ha hr]
      | ok _ b =>
          cases hs : Edit.each x rest with
          | ok _ bs => simp [Edit.each, hr, hs] at hx
          | error fault' bs =>
              obtain ⟨rfl, rfl⟩ : fault' = fault ∧ b :: bs = ys := by simpa [Edit.each, hr, hs] using hx
              simp [Edit.each, hok a b ha hr, ih hrest hs]

structure Replays (J D : σ → Prop) (edit : Edit σ Unit) : Prop where
  establishes : Establishes D edit
  repeats : Repeats J edit

theorem Replays.imp (h : Replays J D x) (hD : ∀ s, D' s ↔ D s) : Replays J D' x :=
  ⟨h.establishes.imp hD, h.repeats⟩

theorem Replays.pure : Replays J (fun _ => True) (pure () : Edit σ Unit) := ⟨.pure, .pure⟩

theorem Replays.bind (hx : Replays J D x) (hy : Replays J D' y) (hJ : Keeps J x) (hD : Keeps D y) :
    Replays J (fun s => D s ∧ D' s) (x >>= fun _ => y) :=
  ⟨hx.establishes.bind hy.establishes hD, hx.repeats.bind hx.establishes hJ hy.repeats hD⟩

theorem Replays.succeed {f : σ → σ} (hf : ∀ s, D (f s)) (hD : ∀ s, D s → f s = s) : Replays J D (succeed f) :=
  ⟨.succeed hf hD, .succeed f⟩

theorem Replays.attempt {f : σ → Except Fault σ} (hf : ∀ s t, f s = .ok t → D t)
    (hD : ∀ s, D s → f s = .ok s) : Replays J D (attempt f) :=
  ⟨.attempt hf hD, .attempt f⟩

theorem first_eq (p : σ → Bool) (x : Edit σ Unit) (xs : List σ) :
    first p x xs = match xs.find? p with
      | none => .ok () xs
      | some a => match x a with
        | .ok _ b => .ok () (FirstMatch.modify p (fun _ => b) xs)
        | .error fault b => .error fault (FirstMatch.modify p (fun _ => b) xs) := by
  induction xs with
  | nil => rfl
  | cons a rest ih =>
      by_cases ha : p a = true
      · rw [List.find?_cons_of_pos ha, first, if_pos ha]
        cases hx : x a <;> simp [FirstMatch.modify, ha, hx]
      · rw [List.find?_cons_of_neg ha, first, if_neg ha, ih]
        cases rest.find? p with
        | none => rfl
        | some b =>
            dsimp only
            cases hx : x b <;> simp [FirstMatch.modify, ha]

end Edit

namespace Database

open Edit

variable {D J : Entity → Prop} {x : Edit Entity Unit} {s t : Database} {e e' : Entity} {name : String}

theorem editEntity_of_none (h : s.entity? name = none) : editEntity name x s = .ok () s := by
  unfold editEntity within
  rw [first_eq]
  simp only [entity?] at h
  simp [h]

theorem editEntity_of_ok (h : s.entity? name = some e) (hx : x e = .ok () e') :
    editEntity name x s = .ok () (s.modifyEntity name fun _ => e') := by
  unfold editEntity within
  rw [first_eq]
  simp only [entity?] at h
  simp [h, hx, modifyEntity]

theorem editEntity_of_error {fault : Fault} (h : s.entity? name = some e) (hx : x e = .error fault e') :
    editEntity name x s = .error fault (s.modifyEntity name fun _ => e') := by
  unfold editEntity within
  rw [first_eq]
  simp only [entity?] at h
  simp [h, hx, modifyEntity]

theorem entity?_modifyEntity_const (h : s.entity? name = some e) (hn : e.SameNames e') :
    (s.modifyEntity name fun _ => e').entity? name = some e' := by
  have he : e'.isNamed name = true := by
    rw [hn.isNamed]
    simpa using List.find?_some h
  refine (FirstMatch.find?_modify (p := (·.isNamed name)) (f := fun _ => e') fun _ _ => he).trans ?_
  rw [← entity?, h]
  rfl

theorem modifyEntity_congr {f g : Entity → Entity} (h : s.entity? name = some e) (hfg : f e = g e) :
    s.modifyEntity name f = s.modifyEntity name g := by
  rw [modifyEntity, modifyEntity, FirstMatch.modify_congr_of_find? h hfg]

theorem modifyEntity_const_eq_self (h : s.entity? name = some e) : (s.modifyEntity name fun _ => e) = s := by
  unfold modifyEntity
  rw [FirstMatch.modify_eq_self_of_find? (f := fun _ => e) h rfl]

theorem Establishes.editEntity (h : Establishes D x) (hn : ∀ e, Keeps (Entity.SameNames e) x) (name : String) :
    Establishes (fun s => ∀ e, s.entity? name = some e → D e) (editEntity name x) where
  done {s t} ht := by
    cases hs : s.entity? name with
    | none =>
        rw [editEntity_of_none hs] at ht
        cases ht
        simp [hs]
    | some e =>
        cases hx : x e with
        | error fault e' =>
            rw [editEntity_of_error hs hx] at ht
            cases ht
        | ok a e' =>
            rw [editEntity_of_ok hs hx] at ht
            cases ht
            have hnames := (hn e).of_ok hx ⟨rfl, rfl⟩
            intro e'' he
            rw [entity?_modifyEntity_const hs hnames] at he
            cases he
            exact h.done hx
  idle {s} hs := by
    cases he : s.entity? name with
    | none => exact editEntity_of_none he
    | some e => rw [editEntity_of_ok he (h.idle (hs e he)), modifyEntity_const_eq_self he]

theorem Repeats.editEntity (h : Repeats J x) (hn : ∀ e, Keeps (Entity.SameNames e) x) (name : String) :
    Repeats (fun s => ∀ e ∈ s.entities, J e) (editEntity name x) := by
  intro s t fault hJ ht
  cases hs : s.entity? name with
  | none =>
      rw [editEntity_of_none hs] at ht
      cases ht
  | some e =>
      cases hx : x e with
      | ok a e' =>
          rw [editEntity_of_ok hs hx] at ht
          cases ht
      | error fault' e' =>
          rw [editEntity_of_error hs hx] at ht
          cases ht
          have hnames := (hn e).of_error hx ⟨rfl, rfl⟩
          have he := entity?_modifyEntity_const hs hnames
          rw [editEntity_of_error he (h (hJ e (mem_of_entity? hs)) hx), modifyEntity_const_eq_self he]

theorem Replays.editEntity (h : Replays J D x) (hn : ∀ e, Keeps (Entity.SameNames e) x) (name : String) :
    Replays (fun s => ∀ e ∈ s.entities, J e) (fun s => ∀ e, s.entity? name = some e → D e) (editEntity name x) :=
  ⟨Establishes.editEntity h.establishes hn name, Repeats.editEntity h.repeats hn name⟩

end Database

end Tablecraft
