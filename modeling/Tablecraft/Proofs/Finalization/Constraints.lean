import Tablecraft.Proofs.Finalization.Sustained

namespace Tablecraft

open List Edit

variable {limit : Nat} {tables : String → Option String} {heavy : Bool} {e e' : Entity} {name : String}

def Entity.UniquesSettled (e : Entity) : Prop := ∀ f ∈ e.fields, f.unique = true → e.isUniqueOn [f.name] = true

def Entity.SuffixesIndexed (heavy : Bool) (e : Entity) : Prop :=
  e.heavyIndexing.getD heavy = true →
    ∀ names ∈ Finalization.properSuffixes e.primaryKeyNames, e.isIndexed names = true

def Entity.IdMethodSettled (e : Entity) : Prop := e.idMethod = .native → e.hasAutoIncrement = true

structure Entity.Constrained (limit : Nat) (heavy : Bool) (e : Entity) : Prop where
  limited : e.Limited limit
  uniques : e.UniquesSettled
  suffixes : e.SuffixesIndexed heavy
  idMethod : e.IdMethodSettled

namespace Entity.Sustained

theorem uniquesSettled (h : e.Sustained limit tables e') (hu : e.UniquesSettled) : e'.UniquesSettled := by
  intro g hg hgu
  rcases h.fields.of_mem hg with ⟨f, hf, hfg⟩ | ho
  · rw [hfg.name]
    exact h.isUniqueOn (hu f hf (hfg.unique ▸ hgu))
  · simp [ho.2] at hgu

theorem suffixesIndexed (h : e.Sustained limit tables e') (hs : e.SuffixesIndexed heavy) :
    e'.SuffixesIndexed heavy := by
  intro hh names hn
  rw [h.heavyIndexing] at hh
  rw [h.primaryKeyNames_eq] at hn
  exact h.isIndexed (hs hh names hn)

theorem idMethodSettled (h : e.Sustained limit tables e') (hi : e.IdMethodSettled) : e'.IdMethodSettled :=
  fun hn => h.hasAutoIncrement (hi (h.idMethod hn))

theorem constrained (h : e.Sustained limit tables e') (hc : e.Constrained limit heavy) :
    e'.Constrained limit heavy :=
  ⟨h.limited hc.limited, h.uniquesSettled hc.uniques, h.suffixesIndexed hc.suffixes,
    h.idMethodSettled hc.idMethod⟩

end Entity.Sustained

namespace Finalization

theorem keeps_of_sustained {D : Entity → Prop} {x : Edit Entity Unit} (limit : Nat)
    (hx : ∀ e, Keeps (Entity.Sustained limit (fun _ => none) e) x)
    (hD : ∀ s t : Entity, s.Sustained limit (fun _ => none) t → D s → D t) : Keeps D x :=
  .of_rel hx .refl hD

theorem limited_setNameLimit (limit : Nat) (e : Entity) : (e.setNameLimit limit).Limited limit :=
  ⟨rfl, by simp [Entity.setNameLimit], by simp [Entity.setNameLimit], by simp [Entity.setNameLimit]⟩

theorem setNameLimit_eq_self (h : e.Limited limit) : e.setNameLimit limit = e := by
  have hindices : e.indices.map (fun i => { i with nameLimit := limit }) = e.indices :=
    (List.map_congr_left fun i hi => by rw [← h.indices i hi]).trans (List.map_id' _)
  have huniques : e.uniques.map (fun i => { i with nameLimit := limit }) = e.uniques :=
    (List.map_congr_left fun i hi => by rw [← h.uniques i hi]).trans (List.map_id' _)
  have hrelations : e.relations.map (fun r => { r with nameLimit := limit }) = e.relations :=
    (List.map_congr_left fun r hr => by rw [← h.relations r hr]).trans (List.map_id' _)
  rw [Entity.setNameLimit, hindices, huniques, hrelations, ← h.entity]

theorem replays_setNameLimit (J : Entity → Prop) (limit : Nat) :
    Replays J (Entity.Limited limit) (Edit.succeed (Entity.setNameLimit limit)) :=
  .succeed (limited_setNameLimit limit) fun _ => setNameLimit_eq_self

theorem sameMembers_singleton_iff {members : List String} :
    Entity.sameMembers [name] members = true ↔ members = [name] := by
  rw [Entity.sameMembers, Bool.and_eq_true, beq_iff_eq, List.length_singleton, List.length_eq_one_iff]
  constructor
  · rintro ⟨⟨other, rfl⟩, hm⟩
    simpa [eq_comm] using hm
  · rintro rfl
    exact ⟨⟨name, rfl⟩, by simp⟩

theorem isUniqueOn_addUnique (h : e.addUnique (Index.uniqueOfNames [name]) = .ok e') (other : String) :
    e'.isUniqueOn [other] = true ↔ e.isUniqueOn [other] = true ∨ other = name := by
  obtain ⟨j, hj, rfl⟩ := Entity.addUnique_eq_ok h
  have hm : j.memberNames = [name] := by
    rw [(Entity.admitIndex_eq_ok hj).1]
    rfl
  have hs : Entity.sameMembers [other] [name] = true ↔ other = name :=
    sameMembers_singleton_iff.trans ⟨fun h => (List.singleton_inj.1 h).symm, fun h => h ▸ rfl⟩
  have hk : Entity.primaryKeyNames { e with uniques := e.uniques ++ [j] } = e.primaryKeyNames := rfl
  simp only [Entity.isUniqueOn, List.any_append, List.any_cons, List.any_nil, Bool.or_false,
    Bool.or_eq_true, hm, hs, hk, or_assoc]

theorem addUniques_eq_ok {names : List String} (h : addUniques names e = .ok () e') :
    e'.fields = e.fields ∧ ∀ other, e'.isUniqueOn [other] = true ↔ e.isUniqueOn [other] = true ∨
      other ∈ names := by
  induction names generalizing e with
  | nil =>
      cases h
      exact ⟨rfl, by simp⟩
  | cons name rest ih =>
      obtain ⟨_, e₁, h₁, h⟩ := bind_eq_ok_iff.1 h
      have h₁ := attempt_eq_ok_iff.1 h₁
      obtain ⟨hf, hu⟩ := ih h
      obtain ⟨j, -, hj⟩ := Entity.addUnique_eq_ok h₁
      refine ⟨by rw [hf, hj], fun other => ?_⟩
      rw [hu, isUniqueOn_addUnique h₁, List.mem_cons, or_assoc]

/-- A run over the names stops at the first that is refused. -/
theorem addUniques_eq_error {names : List String} {fault : Fault} (h : addUniques names e = .error fault e') :
    ∃ done name rest, names = done ++ name :: rest ∧ addUniques done e = .ok () e' ∧
      e'.addUnique (Index.uniqueOfNames [name]) = .error fault := by
  induction names generalizing e with
  | nil => cases h
  | cons name rest ih =>
      rcases bind_eq_error_iff.1 h with h | ⟨e₁, h₁, h⟩
      · obtain rfl : e = e' := by
          cases ha : e.addUnique (Index.uniqueOfNames [name]) <;> simp_all [Edit.attempt]
        refine ⟨[], name, rest, rfl, rfl, ?_⟩
        cases ha : e.addUnique (Index.uniqueOfNames [name]) <;> simp_all [Edit.attempt]
      · obtain ⟨done, other, rest', rfl, hdone, hr⟩ := ih h
        exact ⟨name :: done, other, rest', rfl, bind_eq_ok_iff.2 ⟨(), e₁, h₁, hdone⟩, hr⟩

theorem mem_unconstrained_iff :
    name ∈ unconstrained e ↔ ∃ f ∈ e.fields, (f.unique = true ∧ e.isUniqueOn [f.name] = false) ∧
      f.name = name := by
  simp [unconstrained, and_assoc]

theorem unconstrained_of_addUniques {names : List String} (h : addUniques names e = .ok () e') :
    unconstrained e' = (unconstrained e).filter (· ∉ names) := by
  obtain ⟨hf, hu⟩ := addUniques_eq_ok h
  unfold unconstrained
  rw [hf, List.filter_map, List.filter_filter]
  refine congrArg _ (List.filter_congr fun f _ => ?_)
  have hb : e'.isUniqueOn [f.name] = (e.isUniqueOn [f.name] || decide (f.name ∈ names)) := by
    rw [Bool.eq_iff_iff, hu, Bool.or_eq_true, decide_eq_true_eq]
  cases f.unique <;> simp [hb, Bool.and_comm]

theorem unconstrained_eq_nil (h : e.UniquesSettled) : unconstrained e = [] := by
  rw [List.eq_nil_iff_forall_not_mem]
  intro name hn
  obtain ⟨f, hf, ⟨hu, hn⟩, -⟩ := mem_unconstrained_iff.1 hn
  simp [h f hf hu] at hn

theorem establishes_constrainUniqueFields : Establishes Entity.UniquesSettled constrainUniqueFields where
  done {e e'} h := by
    obtain ⟨hf, hu⟩ := addUniques_eq_ok h
    intro f hm hfu
    rw [hu]
    cases hc : e.isUniqueOn [f.name] with
    | true => exact .inl rfl
    | false => exact .inr (mem_unconstrained_iff.2 ⟨f, hf ▸ hm, ⟨hfu, hc⟩, rfl⟩)
  idle {e} h := by rw [constrainUniqueFields, unconstrained_eq_nil h, addUniques]; rfl

theorem repeats_constrainUniqueFields : Repeats (fun e => e.fieldNames.Nodup) constrainUniqueFields := by
  intro e e' fault hd h
  obtain ⟨done, name, rest, hsplit, hdone, hr⟩ := addUniques_eq_error h
  have hnodup : (unconstrained e).Nodup := hd.sublist (List.filter_sublist.map _)
  rw [hsplit] at hnodup
  -- the refused name has become the first that is unconstrained
  have hrest : unconstrained e' = name :: rest := by
    rw [unconstrained_of_addUniques hdone, hsplit, List.filter_append]
    have hleft : done.filter (· ∉ done) = [] := by simp
    have hright : (name :: rest).filter (· ∉ done) = name :: rest :=
      List.filter_eq_self.2 fun x hx => by simpa using fun hd => (List.nodup_append'.1 hnodup).2.2 hd hx
    rw [hleft, hright, List.nil_append]
  rw [constrainUniqueFields, hrest]
  exact bind_eq_of_error (by simp [Edit.attempt, hr])

theorem isIndexed_of_addIndex {names : List String} (h : e.addIndex (Index.ofNames names) = .ok e') :
    e'.isIndexed names = true := by
  obtain ⟨j, hj, rfl⟩ := Entity.addIndex_eq_ok h
  obtain ⟨rfl, hm, -⟩ := Entity.admitIndex_eq_ok hj
  have hn : names.isEmpty = false := by
    cases names with
    | nil => simp [Index.ofNames] at hm
    | cons n rest => rfl
  have hc : Index.coversPrefix
      { Index.ofNames names with table := some e.table, nameLimit := e.nameLimit } names = true := by
    simp [Index.coversPrefix, Index.memberNames, Index.ofNames, Function.comp_def]
  simp [Entity.isIndexed, Entity.allIndices, hn, hc]

theorem replays_indexIfMissing (J : Entity → Prop) (names : List String) :
    Replays J (fun e => e.isIndexed names = true) (indexIfMissing names) := by
  refine .attempt (fun e e' h => ?_) fun e h => by rw [if_pos h]
  split at h
  · cases h
    assumption
  · exact isIndexed_of_addIndex h

theorem replays_indexMissing (suffixes : List (List String)) :
    Replays (fun _ => True) (fun e => ∀ names ∈ suffixes, e.isIndexed names = true) (indexMissing suffixes) := by
  induction suffixes with
  | nil => exact .imp .pure (by simp)
  | cons names rest ih =>
      have hk : Keeps (fun e : Entity => e.isIndexed names = true) (indexMissing rest) :=
        keeps_of_sustained 0 (fun _ => (Entity.absorbs_sustained 0 _).keeps_indexMissing rest) fun _ _ h =>
          h.isIndexed
      exact .imp (.bind (replays_indexIfMissing _ names) ih (fun _ _ => trivial) hk) fun e => List.forall_mem_cons

def indexHeavily (heavy : Bool) : Edit Entity Unit := fun e =>
  if e.heavyIndexing.getD heavy then indexKeySuffixes e else .ok () e

theorem sustained_indexHeavily (heavy : Bool) (e : Entity) :
    Keeps (Entity.Sustained limit tables e) (indexHeavily heavy) := by
  intro s hs
  by_cases hh : s.heavyIndexing.getD heavy = true
  · simpa [Edit.after, indexHeavily, hh] using (Entity.absorbs_sustained limit tables).keeps_indexKeySuffixes s hs
  · simpa [Edit.after, indexHeavily, hh] using hs

/-- The key does not change while its ends are indexed, so the second run asks for the same indices. -/
theorem replays_indexHeavily (J : Entity → Prop) (heavy : Bool) :
    Replays J (Entity.SuffixesIndexed heavy) (indexHeavily heavy) := by
  have hs (e : Entity) : Keeps (Entity.Sustained 0 (fun _ => none) e) (indexHeavily heavy) :=
    sustained_indexHeavily heavy e
  refine ⟨⟨fun {e e'} h => ?_, fun {e} h => ?_⟩, fun e e' fault _ h => ?_⟩
  · have hx := (hs e).of_ok h (.refl e)
    intro hh
    rw [hx.heavyIndexing] at hh
    rw [indexHeavily, if_pos hh] at h
    rw [hx.primaryKeyNames_eq]
    exact (replays_indexMissing _).establishes.done h
  · unfold indexHeavily
    split
    · exact (replays_indexMissing _).establishes.idle (h ‹_›)
    · rfl
  · have hx := (hs e).of_error h (.refl e)
    unfold indexHeavily at h ⊢
    rw [hx.heavyIndexing]
    split at h
    · rw [if_pos ‹_›, indexKeySuffixes, hx.primaryKeyNames_eq]
      exact (replays_indexMissing _).repeats trivial h
    · cases h

theorem replays_settleIdMethod (J : Entity → Prop) :
    Replays J Entity.IdMethodSettled (Edit.succeed settleIdMethod) := by
  refine .succeed (fun e => ?_) fun e h => ?_
  · unfold settleIdMethod
    split
    · intro hn
      simp [Entity.setIdMethod, Entity.idMethod] at hn
    · rename_i hn
      intro hm
      simpa [hm] using hn
  · unfold settleIdMethod
    rw [if_neg]
    simp only [Bool.and_eq_true, decide_eq_true_eq, Bool.not_eq_eq_eq_not, Bool.not_true, not_and,
      Bool.not_eq_false]
    exact h

theorem replays_settleEntity (p : Platform) (heavy : Bool) :
    Replays (fun e => e.fieldNames.Nodup) (Entity.Constrained p.maxIdentifierLength heavy)
      (settleEntity p heavy) := by
  have hR := Entity.absorbs_sustained p.maxIdentifierLength fun _ => none
  -- each part sustains the entity, so it keeps what the parts before it have settled
  have hid (e : Entity) : Keeps (Entity.Sustained _ _ e) (Edit.succeed settleIdMethod) :=
    .succeed fun _ h => hR.settleIdMethod h
  have hheavy (e : Entity) : Keeps (Entity.Sustained p.maxIdentifierLength (fun _ => none) e)
      (indexHeavily heavy >>= fun _ => Edit.succeed settleIdMethod) :=
    .bind (sustained_indexHeavily heavy e) fun _ => hid e
  have huniques (e : Entity) : Keeps (Entity.Sustained p.maxIdentifierLength (fun _ => none) e)
      (constrainUniqueFields >>= fun _ => indexHeavily heavy >>= fun _ => Edit.succeed settleIdMethod) :=
    .bind hR.keeps_constrainUniqueFields fun _ => hheavy e
  have hnodup {x : Edit Entity Unit}
    (hx : ∀ e, Keeps (Entity.Sustained p.maxIdentifierLength (fun _ => none) e) x) :
      Keeps (fun e => e.fieldNames.Nodup) x := keeps_of_sustained _ hx fun _ _ h => h.distinct
  have h₃ := Replays.bind (replays_indexHeavily _ heavy) (replays_settleIdMethod _)
    (hnodup fun e => sustained_indexHeavily heavy e) (keeps_of_sustained _ hid fun _ _ h => h.suffixesIndexed)
  have h₂ := Replays.bind ⟨establishes_constrainUniqueFields, repeats_constrainUniqueFields⟩ h₃
    (hnodup fun e => hR.keeps_constrainUniqueFields) (keeps_of_sustained _ hheavy fun _ _ h => h.uniquesSettled)
  have h₁ := Replays.bind (replays_setNameLimit _ p.maxIdentifierLength) h₂
    (hnodup fun e => .succeed fun _ h => hR.setNameLimit h) (keeps_of_sustained _ huniques fun _ _ h => h.limited)
  exact h₁.imp fun e => ⟨fun h => ⟨h.limited, h.uniques, h.suffixes, h.idMethod⟩, fun ⟨hl, hu, hs, hi⟩ =>
    ⟨hl, hu, hs, hi⟩⟩

end Finalization

end Tablecraft
