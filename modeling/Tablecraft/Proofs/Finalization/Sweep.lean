import Tablecraft.Proofs.Finalization.References

namespace Tablecraft

open List Edit

variable {tables : String → Option String} {p : Platform} {heavy : Bool} {a s t : Database}
  {e e' foreign foreign' : Entity} {r : Relation} {i k : Nat} {name : String} {ks : List Nat}

namespace Finalization

theorem isPrimaryKeyOf_of_extends (h : foreign.Extends tables foreign') :
    isPrimaryKeyOf foreign' = isPrimaryKeyOf foreign :=
  funext (h.fields.isPrimaryKeyOf_eq (fun f g hf => by rw [hf]; exact ⟨rfl, rfl⟩) fun f hf => by rw [hf])

theorem synthesizeAll_of_extends (h : foreign.Extends tables foreign') (e : Entity) (r : Relation) :
    synthesizeAll e foreign' r = synthesizeAll e foreign r := by
  have hempty : foreign'.primaryKey.isEmpty = foreign.primaryKey.isEmpty := by
    rw [← List.isEmpty_map, ← Entity.keys, h.keys_eq, Entity.keys, List.isEmpty_map]
  unfold synthesizeAll
  rw [hempty, h.sameNames.1]
  split
  · rfl
  · refine mapM_eq_of_forall₂ (FirstMatch.forall₂_of_map_eq h.keys_eq) fun key key' hk => ?_
    obtain ⟨hname, hdomain⟩ := Prod.mk.inj hk
    have hfield : synthesize r key = synthesize r key' := by rw [synthesize, synthesize, hname, hdomain]
    dsimp only
    rw [hfield, hname]

theorem settleReferences_of_extends (h : foreign.Extends tables foreign') (e : Entity) (k : Nat) (r : Relation) :
    settleReferences e foreign' k r = settleReferences e foreign k r := by
  have htable : setForeignTable k foreign' = setForeignTable k foreign := by
    unfold setForeignTable
    rw [h.fullTable_eq]
  unfold settleReferences carriers
  rw [synthesizeAll_of_extends h, isPrimaryKeyOf_of_extends h, htable]

def settleOne (find? : String → Option Entity) (e : Entity) (k : Nat) : Option Entity :=
  match e.relations[k]? with
  | none => some e
  | some r => do
    let foreign ← find? r.foreignEntity
    let edit ← (settleReferences e foreign k r).toOption
    (edit.result e).toOption

def settled? (p : Platform) (heavy : Bool) (find? : String → Option Entity) (e : Entity) : Option Entity := do
  let e ← ((settleEntity p heavy).result e).toOption
  (List.range e.relations.length).foldlM (settleOne find?) e

theorem modifyEntityAt_eq_self (hi : s.entities[i]? = some e) : (s.modifyEntityAt i fun _ => e) = s := by
  rw [Database.modifyEntityAt, FirstMatch.listModify_eq_self hi rfl]

theorem getElem?_modifyEntityAt (hi : s.entities[i]? = some e) (e' : Entity) :
    (s.modifyEntityAt i fun _ => e').entities[i]? = some e' := by
  simp [Database.modifyEntityAt, hi]

theorem modifyEntityAt_modifyEntityAt (s : Database) (i : Nat) (e e' : Entity) :
    ((s.modifyEntityAt i fun _ => e).modifyEntityAt i fun _ => e') = s.modifyEntityAt i fun _ => e' := by
  simp [Database.modifyEntityAt, List.modify_modify_eq, Function.comp_def]

theorem editAt_eq_ok_iff {edit : Edit Entity Unit} (hi : s.entities[i]? = some e) :
    editAt i edit s = .ok () t ↔ ∃ e', (edit.result e).toOption = some e' ∧
      t = s.modifyEntityAt i fun _ => e' := by
  unfold editAt
  simp only [hi, except_toOption_eq_some_iff, result_eq_ok_iff]
  cases he : edit e with
  | error fault e' => simp
  | ok _ e' => simp [eq_comm]

theorem settleRelation_eq_ok_iff (hx : a.Extends s) (hi : s.entities[i]? = some e) :
    settleRelation i k s = .ok () t ↔
      ∃ e', settleOne a.entity? e k = some e' ∧ t = s.modifyEntityAt i fun _ => e' := by
  have hn (x y : Entity) (h : x.Extends a.tableOf? y) := h.sameNames
  unfold settleRelation settleOne
  cases hk : e.relations[k]? with
  | none => simp [hi, hk, modifyEntityAt_eq_self hi, eq_comm]
  | some r =>
      cases hf : a.entity? r.foreignEntity with
      | none =>
          have hf' : s.entity? r.foreignEntity = none := by
            refine Option.eq_none_iff_forall_ne_some.2 fun foreign' h => ?_
            obtain ⟨foreign, h₀, -⟩ := hx.entity?' hn h
            simp [hf] at h₀
          simp [hi, hk, foreignOf, hf, hf']
      | some foreign =>
          obtain ⟨foreign', hf', hxf⟩ := hx.entity? hn hf
          have href := settleReferences_of_extends hxf e k r
          cases he : settleReferences e foreign k r with
          | error fault => simp [hi, hk, foreignOf, hf, hf', href, he, Except.toOption]
          | ok edit => simpa [hi, hk, foreignOf, hf, hf', href, he, Except.toOption] using editAt_eq_ok_iff hi

theorem settleRelations_eq_ok_iff (hx : a.Extends s) (hi : s.entities[i]? = some e) :
    settleRelations i ks s = .ok () t ↔
      ∃ e', ks.foldlM (settleOne a.entity?) e = some e' ∧ t = s.modifyEntityAt i fun _ => e' := by
  induction ks generalizing s e with
  | nil =>
      have hself := modifyEntityAt_eq_self hi
      simp only [List.foldlM_nil, Option.pure_def, Option.some.injEq, exists_eq_left', hself]
      exact ⟨fun h => by cases h; rfl, by rintro rfl; rfl⟩
  | cons k rest ih =>
      rw [List.foldlM_cons]
      constructor
      · intro h
        obtain ⟨_, u, hu, ht⟩ := bind_eq_ok_iff.1 h
        have hxu := (keeps_settleRelation i k).of_ok hu hx
        obtain ⟨e₁, h₁, rfl⟩ := (settleRelation_eq_ok_iff hx hi).1 hu
        obtain ⟨e', he', rfl⟩ := (ih hxu (getElem?_modifyEntityAt hi e₁)).1 ht
        exact ⟨e', Option.bind_eq_some_iff.2 ⟨e₁, h₁, he'⟩, modifyEntityAt_modifyEntityAt s i e₁ e'⟩
      · rintro ⟨e', he', rfl⟩
        obtain ⟨e₁, h₁, he'⟩ := Option.bind_eq_some_iff.1 he'
        have hu := (settleRelation_eq_ok_iff hx hi).2 ⟨e₁, h₁, rfl⟩
        have hxu := (keeps_settleRelation i k).of_ok hu hx
        refine bind_eq_ok_iff.2 ⟨(), _, hu, (ih hxu (getElem?_modifyEntityAt hi e₁)).2 ⟨e', he', ?_⟩⟩
        exact (modifyEntityAt_modifyEntityAt s i e₁ e').symm

theorem settle_eq_ok_iff (hx : a.Extends s) (hp : s.position? name = some i) (hi : s.entities[i]? = some e) :
    settle p heavy name s = .ok () t ↔
      ∃ e', settled? p heavy a.entity? e = some e' ∧ t = s.modifyEntityAt i fun _ => e' := by
  have hfound := Database.entity?_eq_some_iff.2 ⟨i, hp, hi⟩
  cases h₁ : settleEntity p heavy e with
  | error fault e₁ =>
      have hresult : (settleEntity p heavy).result e = .error fault := by simp [Edit.result, h₁]
      have hstop := Database.editEntity_of_error hfound h₁
      constructor
      · intro h
        obtain ⟨_, u, hu, -⟩ := bind_eq_ok_iff.1 h
        rw [hstop] at hu
        cases hu
      · rintro ⟨e', he', -⟩
        simp [settled?, hresult, Except.toOption] at he'
  | ok _ e₁ =>
      have hresult : ((settleEntity p heavy).result e).toOption = some e₁ :=
        except_toOption_eq_some_iff.2 (result_eq_ok_iff.2 h₁)
      have hu := Database.editEntity_of_ok hfound h₁
      have hxu := (Database.Extends.keeps_editEntity name fun _ => keeps_settleEntity p heavy).of_ok hu hx
      rw [Database.modifyEntity_eq_modifyEntityAt hp] at hu hxu
      have hi₁ := getElem?_modifyEntityAt hi e₁
      have hp₁ : (s.modifyEntityAt i fun _ => e₁).position? name = some i := by
        rw [← hp, Database.position?_congr hxu.sameNames, Database.position?_congr hx.sameNames]
      have hown : settled? p heavy a.entity? e =
          (List.range e₁.relations.length).foldlM (settleOne a.entity?) e₁ := by
        simp [settled?, hresult]
      have hrest := settleRelationsOf_eq hp₁ hi₁
      have hrun : settle p heavy name s = .ok () t ↔
          settleRelations i (List.range e₁.relations.length) (s.modifyEntityAt i fun _ => e₁) = .ok () t := by
        rw [← hrest]
        refine bind_eq_ok_iff.trans ⟨?_, fun h => ⟨(), _, hu, h⟩⟩
        rintro ⟨_, u, hu', h⟩
        cases hu.symm.trans hu'
        exact h
      rw [hrun, hown, settleRelations_eq_ok_iff hxu hi₁]
      simp only [modifyEntityAt_modifyEntityAt]

theorem settleAll_eq_ok_iff_from {rest : List Entity} (before : List Entity) (ha : a.Addressed) (hx : a.Extends s)
    (hs : s.entities = before ++ rest) :
    settleAll p heavy (rest.map (·.name)) s = .ok () t ↔
      ∃ rest', Forall₂ (fun e e' => settled? p heavy a.entity? e = some e') rest rest' ∧
        t = { s with entities := before ++ rest' } := by
  induction rest generalizing s before with
  | nil =>
      have hself : ({ s with entities := before ++ [] } : Database) = s := by rw [← hs]
      constructor
      · intro h
        cases h
        exact ⟨[], .nil, hself.symm⟩
      · rintro ⟨rest', hrest, rfl⟩
        cases hrest
        rw [hself]
        rfl
  | cons e rest ih =>
      have hi : s.entities[before.length]? = some e := by simp [hs]
      have hp := (hx.addressed ha).position?_eq hi
      have hnext (e' : Entity) :
          (s.modifyEntityAt before.length fun _ => e') = { s with entities := (before ++ [e']) ++ rest } := by
        rw [Database.modifyEntityAt, hs, FirstMatch.listModify_append, List.append_assoc]
        rfl
      constructor
      · intro h
        obtain ⟨_, u, hu, ht⟩ := bind_eq_ok_iff.1 h
        have hxu := (keeps_settle p heavy e.name).of_ok hu hx
        obtain ⟨e', he', rfl⟩ := (settle_eq_ok_iff hx hp hi).1 hu
        obtain ⟨rest', hrest, rfl⟩ := (ih (before ++ [e']) hxu (by rw [hnext])).1 ht
        exact ⟨e' :: rest', .cons he' hrest, by simp [Database.modifyEntityAt]⟩
      · rintro ⟨rest', hrest, rfl⟩
        cases hrest with
        | @cons _ e' _ rest' he' hrest =>
            have hu := (settle_eq_ok_iff hx hp hi).2 ⟨e', he', rfl⟩
            have hxu := (keeps_settle p heavy e.name).of_ok hu hx
            refine bind_eq_ok_iff.2 ⟨(), _, hu, (ih (before ++ [e']) hxu (by rw [hnext])).2 ⟨rest', hrest, ?_⟩⟩
            simp [Database.modifyEntityAt]

/-- The sweep ends if every entity can be settled by itself, and then has settled each. -/
theorem settleAll_eq_ok_iff (ha : a.Addressed) :
    settleAll p heavy a.entityNames a = .ok () t ↔
      a.Related (fun e e' => settled? p heavy a.entity? e = some e') t := by
  refine (settleAll_eq_ok_iff_from [] ha (.refl a) rfl).trans ⟨?_, fun h => ⟨t.entities, h.entities, h.frame⟩⟩
  rintro ⟨rest, hrest, rfl⟩
  exact ⟨rfl, hrest⟩

end Finalization

end Tablecraft
