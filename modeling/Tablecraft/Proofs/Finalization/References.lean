import Tablecraft.Proofs.Finalization.Constraints
import Tablecraft.Proofs.Finalization.Settling

namespace Tablecraft

open List Edit

variable {limit : Nat} {tables : String → Option String} {p : Platform} {heavy : Bool} {db db' s t : Database}
  {e e' foreign foreign' : Entity} {r r' : Relation} {i k : Nat} {name : String}

def Entity.Marked (name : String) (e : Entity) : Prop :=
  ∃ f, e.field? name = some f ∧ f.implementationDetail = true

theorem Entity.Sustained.marked (h : e.Sustained limit tables e') (hm : e.Marked name) : e'.Marked name := by
  obtain ⟨f, hf, hd⟩ := hm
  obtain ⟨g, hg, hfg⟩ := h.field? hf
  exact ⟨g, hg, hfg.mark hd⟩

theorem Relation.Settled.of_sustained (h : r.Settled tables e) (hx : e.Sustained limit tables e')
    (hk : r.Kept tables r') : r'.Settled tables e' := by
  have hr := hk.references h.references
  obtain ⟨table, ht, hf⟩ := h.table
  refine ⟨hr ▸ h.references, fun name hn => ?_, table, by rw [hk.foreignEntity_eq, ht], ?_⟩
  · rw [Relation.localFields, hr] at hn
    exact hx.hasField (h.localFields name hn)
  · rcases hk.table with hs | hs
    · rw [hs, hf]
    · rw [hs, ht]

/-- Nothing is left to do for the relation in this place: it is settled, and its carriers are marked. -/
def Database.ReferencesSettled (i k : Nat) (db : Database) : Prop :=
  ∀ e r, db.entities[i]? = some e → e.relations[k]? = some r → r.Settled db.tableOf? e ∧
    ∀ foreign, db.entity? r.foreignEntity = some foreign → ∀ name ∈ Finalization.carriers e foreign r,
      e.Marked name

namespace Finalization

theorem carriers_congr (h : e.Sustained limit tables e') (hf : foreign.Sustained limit tables foreign')
    (hr : r'.references = r.references) : carriers e' foreign' r' = carriers e foreign r := by
  have hkey : isPrimaryKeyOf foreign' = isPrimaryKeyOf foreign := funext hf.isPrimaryKeyOf_eq
  have hlocal : r'.matchesLocalPrimaryKey e' = r.matchesLocalPrimaryKey e := by
    rw [Relation.matchesLocalPrimaryKey, Relation.matchesLocalPrimaryKey, h.primaryKeyNames_eq,
      Relation.localFields, hr, ← Relation.localFields]
  rw [carriers, carriers, hlocal, hr, hkey]

theorem localField_of_mem_carriers (h : name ∈ carriers e foreign r) : name ∈ r.localFields := by
  unfold carriers at h
  split at h
  · cases h
  · exact (List.filter_sublist.map Prod.fst).subset h

end Finalization

namespace Database.Sustains

open Finalization

theorem referencesSettled (h : db.Sustains limit db') (hs : db.ReferencesSettled i k) :
    db'.ReferencesSettled i k := by
  intro e' r' he' hr'
  obtain ⟨e, he, hx⟩ := FirstMatch.exists_of_getElem?' h.entities he'
  obtain ⟨r, hr, hk⟩ := FirstMatch.exists_of_getElem?' hx.relations hr'
  obtain ⟨hsettled, hmarked⟩ := hs e r he hr
  have hrefs := hk.references hsettled.references
  rw [h.tableOf?_eq]
  refine ⟨hsettled.of_sustained hx hk, fun foreign' hf' name hn => ?_⟩
  rw [hk.foreignEntity_eq] at hf'
  obtain ⟨foreign, hf, hfx⟩ := h.entity?' hf'
  rw [carriers_congr hx hfx hrefs] at hn
  exact hx.marked (hmarked foreign hf name hn)

end Database.Sustains

namespace Finalization

theorem keeps_of_sustains {D : Database → Prop} {x : Edit Database Unit} (limit : Nat)
    (hx : ∀ db : Database, Keeps (db.Sustains limit) x) (hD : ∀ s t : Database, s.Sustains limit t → D s → D t) :
    Keeps D x :=
  .of_rel hx (.refl limit) hD

theorem marked_modifyField (h : e.hasField name = true) :
    (e.modifyField name fun f => { f with implementationDetail := true }).Marked name := by
  obtain ⟨f, hf⟩ := Entity.exists_field? h
  refine ⟨{ f with implementationDetail := true }, ?_, rfl⟩
  rw [Entity.field?, Entity.modifyField, FirstMatch.find?_modify (by simp)]
  exact Option.map_eq_some_iff.2 ⟨f, hf, rfl⟩

theorem sustained_markCarriers (names : List String) (e : Entity) :
    e.Sustained limit tables (markCarriers names e) :=
  (Entity.absorbs_sustained limit tables).markCarriers names (.refl e)

theorem marked_markCarriers {names : List String} (hn : name ∈ names) (h : e.hasField name = true) :
    (markCarriers names e).Marked name := by
  induction names generalizing e with
  | nil => cases hn
  | cons other rest ih =>
      have hx : e.Sustained 0 (fun _ => none) _ := sustained_markCarriers [other] e
      rcases List.mem_cons.1 hn with rfl | hn
      · have hrest : Entity.Sustained 0 (fun _ => none) _ _ := sustained_markCarriers rest (markCarriers [name] e)
        exact hrest.marked (marked_modifyField h)
      · exact ih hn (hx.hasField h)

theorem modifyField_eq_self {f : Field → Field} (h : ∀ g, e.field? name = some g → f g = g) :
    e.modifyField name f = e := by
  unfold Entity.modifyField
  cases hg : e.field? name with
  | some g => rw [FirstMatch.modify_eq_self_of_find? hg (h g hg)]
  | none =>
      have hi : e.fields.findIdx? (·.name == name) = none :=
        List.findIdx?_eq_none_iff.2 fun g hm => by simpa using List.find?_eq_none.1 hg g hm
      rw [FirstMatch.modify_eq_self _ hi]

theorem markCarriers_eq_self {names : List String} (h : ∀ name ∈ names, e.Marked name) :
    markCarriers names e = e := by
  induction names with
  | nil => rfl
  | cons name rest ih =>
      obtain ⟨⟨f, hf, hm⟩, hrest⟩ := List.forall_mem_cons.1 h
      have hself : (e.modifyField name fun f => { f with implementationDetail := true }) = e := by
        refine modifyField_eq_self fun g hg => ?_
        obtain rfl : f = g := Option.some.inj (hf.symm.trans hg)
        rw [← hm]
      rw [markCarriers, List.foldl_cons, hself]
      exact ih hrest

theorem hasField_appendField (f : Field) (e : Entity) (name : String) :
    (e.appendField f).hasField name = true ↔ e.hasField name = true ∨ name = f.name := by
  simp [Entity.hasField_iff, Entity.fieldNames, Entity.appendField]

theorem marked_appendField {f : Field} (hn : e.hasField f.name = false) (hd : f.implementationDetail = true) :
    (e.appendField f).Marked f.name :=
  ⟨_, Entity.field?_appendField_self hn, hd⟩

theorem marked_appendField_of_marked (f : Field) (h : e.Marked name) : (e.appendField f).Marked name := by
  obtain ⟨g, hg, hd⟩ := h
  refine ⟨g, ?_, hd⟩
  unfold Entity.field? at hg
  simp [Entity.field?, Entity.appendField, List.find?_append, hg]

theorem marked_addReferences {fields : List (Field × String)} (hf : ∀ q ∈ fields, q.1.implementationDetail = true)
    (h : addReferences k fields e = .ok () e') :
    (∀ name, e.Marked name → e'.Marked name) ∧ ∀ q ∈ fields, e'.Marked q.1.name := by
  induction fields generalizing e with
  | nil =>
      cases h
      exact ⟨fun _ hm => hm, by simp⟩
  | cons q rest ih =>
      obtain ⟨_, e₁, h₁, h⟩ := bind_eq_ok_iff.1 h
      obtain ⟨e₂, h₂, he⟩ := except_bind_eq_ok_iff.1 (attempt_eq_ok_iff.1 h₁)
      obtain ⟨hn, _, rfl⟩ := Entity.addField_eq_ok h₂
      obtain rfl := Except.ok.inj he
      obtain ⟨hq, hf⟩ := List.forall_mem_cons.1 hf
      obtain ⟨hkept, hrest⟩ := ih hf h
      refine ⟨fun name hm => hkept name (marked_appendField_of_marked q.1 hm), List.forall_mem_cons.2 ⟨?_, hrest⟩⟩
      exact hkept _ (marked_appendField hn hq)

theorem names_of_synthesizeAll {fields : List (Field × String)} (h : synthesizeAll e foreign r = .ok fields) :
    fields.map (·.1.name) =
      foreign.primaryKeyNames.map (fun key => Text.uncapitalize r.fieldName ++ Naming.studlyCase key) := by
  rw [Entity.primaryKeyNames, List.map_map]
  refine FirstMatch.map_eq_of_forall₂ (synthesizeAll_eq_ok h).2 fun key q hq => ?_
  obtain ⟨-, rfl⟩ := hq
  rfl

theorem marks_of_synthesizeAll {fields : List (Field × String)} (h : synthesizeAll e foreign r = .ok fields) :
    ∀ q ∈ fields, e.hasField q.1.name = false ∧ q.1.isInheritance = false ∧ q.1.implementationDetail = true := by
  intro q hq
  obtain ⟨key, -, hn, rfl⟩ := FirstMatch.exists_of_mem' (synthesizeAll_eq_ok h).2 hq
  exact ⟨hn, rfl, rfl⟩

theorem exists_addReferences {fields : List (Field × String)} (hd : (fields.map (·.1.name)).Nodup)
    (hf : ∀ q ∈ fields, e.hasField q.1.name = false ∧ q.1.isInheritance = false) :
    ∃ e', addReferences k fields e = .ok () e' := by
  induction fields generalizing e with
  | nil => exact ⟨e, rfl⟩
  | cons q rest ih =>
      obtain ⟨⟨hn, hi⟩, hrest⟩ := List.forall_mem_cons.1 hf
      obtain ⟨hq, hd⟩ := List.nodup_cons.1 hd
      have hadd : e.addField q.1 = .ok (e.appendField q.1) := by simp [Entity.addField, hn, hi]
      have hfree : ∀ x ∈ rest,
        ((e.appendField q.1).modifyRelationAt k fun r => r.addReference q.1.name q.2).hasField
          x.1.name = false ∧ x.1.isInheritance = false := by
        intro x hx
        refine ⟨?_, (hrest x hx).2⟩
        have hne : x.1.name ≠ q.1.name := fun h => hq (List.mem_map.2 ⟨x, hx, h⟩)
        have hnot := (hasField_appendField q.1 e x.1.name).not.2 (by simp [(hrest x hx).1, hne])
        exact Bool.eq_false_iff.2 hnot
      obtain ⟨e', he'⟩ := ih hd hfree
      refine ⟨e', bind_eq_ok_iff.2 ⟨(), _, attempt_eq_ok_iff.2 ?_, he'⟩⟩
      exact except_bind_eq_ok_iff.2 ⟨_, hadd, rfl⟩

theorem carriers_setForeignTable (table : Option String) :
    carriers e foreign { r with foreignTable := table } = carriers e foreign r := rfl

/-- Whether a relation had its pairs or got them, its carriers are marked in the end. -/
theorem marked_of_settleReferences {edit : Edit Entity Unit} (hk : e.relations[k]? = some r)
    (h : settleReferences e foreign k r = .ok edit) (he : edit e = .ok () e') :
    ∃ r', e'.relations[k]? = some r' ∧ ∀ name ∈ carriers e' foreign r', e'.Marked name := by
  obtain ⟨-, hc, rfl⟩ | ⟨fields, hnil, hf, rfl⟩ := settleReferences_cases h
  · obtain ⟨_, e₁, h₁, h₂⟩ := bind_eq_ok_iff.1 he
    cases h₁
    cases h₂
    have hx : e.Sustained 0 (fun _ => none) _ := sustained_markCarriers (carriers e foreign r) e
    refine ⟨{ r with foreignTable := some foreign.fullTable }, ?_, fun name hn => ?_⟩
    · simp [Entity.modifyRelationAt, relations_markCarriers, hk]
    · rw [carriers_setForeignTable] at hn
      have hn : name ∈ carriers (markCarriers (carriers e foreign r) e) foreign r := hn
      rw [carriers_congr hx (.refl foreign) rfl] at hn
      exact marked_markCarriers hn (hasField_of_checkLocalFields hc name (localField_of_mem_carriers hn))
  · obtain ⟨_, e₁, h₁, h₂⟩ := bind_eq_ok_iff.1 he
    cases h₂
    obtain ⟨hr₁, -, -⟩ := addReferences_eq_ok hk h₁
    obtain ⟨-, hmarked⟩ := marked_addReferences (fun q hq => (marks_of_synthesizeAll hf q hq).2.2) h₁
    refine ⟨_, by simp [Entity.modifyRelationAt, hr₁]; rfl, fun name hn => ?_⟩
    have hl := localField_of_mem_carriers hn
    obtain ⟨q, hq, rfl⟩ : ∃ q ∈ fields, q.1.name = name := by
      simpa [Relation.localFields, hnil] using hl
    exact hmarked q hq

theorem sustains_settleRelation (limit i k : Nat) (db : Database) :
    Keeps (db.Sustains limit) (settleRelation i k) :=
  (Entity.absorbs_sustained limit db.tableOf?).keeps_settleRelation i k

theorem referencesSettled_of_settleRelation (h : settleRelation i k s = .ok () t) : t.ReferencesSettled i k := by
  intro e' r' he' hr'
  refine ⟨settledAt_of_settleRelation h e' r' he' hr', ?_⟩
  rcases settleRelation_cases i k s with ⟨_, hc⟩ | ⟨hn, hc⟩ | ⟨e, r, foreign, edit, hi, hk, hf, he, hc⟩
  · rw [hc] at h
    cases h
  · rw [hc] at h
    cases h
    simp [hn e' he'] at hr'
  · have hx := (sustains_settleRelation 0 i k s).of_ok h (.refl 0 s)
    obtain ⟨e₁, he₁, hx₁⟩ := FirstMatch.exists_of_getElem? hx.entities hi
    obtain ⟨r₁, hr₁, hk₁⟩ := FirstMatch.exists_of_getElem? hx₁.relations hk
    rw [hc] at h
    obtain ⟨e₂, h₂, rfl⟩ := editAt_eq_ok hi h
    obtain rfl : e₂ = e' := by simpa [Database.modifyEntityAt, hi] using he'
    obtain rfl : e₁ = e₂ := Option.some.inj (he₁.symm.trans he')
    obtain ⟨r₂, hr₂, hmarked⟩ := marked_of_settleReferences hk he h₂
    obtain rfl : r₂ = r' := Option.some.inj (hr₂.symm.trans hr')
    obtain rfl : r₁ = r₂ := Option.some.inj (hr₁.symm.trans hr₂)
    intro foreign' hf' name hn
    rw [hk₁.foreignEntity_eq] at hf'
    obtain ⟨foreign₀, hf₀, hfx⟩ := hx.entity?' hf'
    obtain rfl : foreign = foreign₀ := Option.some.inj (hf.symm.trans hf₀)
    rw [carriers_congr (.refl e₁) hfx rfl] at hn
    exact hmarked name hn

theorem settleRelation_of_settled (h : s.ReferencesSettled i k) : settleRelation i k s = .ok () s := by
  cases hi : s.entities[i]? with
  | none => simp [settleRelation, hi]
  | some e =>
      cases hk : e.relations[k]? with
      | none => simp [settleRelation, hi, hk]
      | some r =>
          obtain ⟨hsettled, hmarked⟩ := h e r hi hk
          obtain ⟨table, ht, htable⟩ := hsettled.table
          obtain ⟨foreign, hf, rfl⟩ := Option.map_eq_some_iff.1 ht
          have href : r.hasReferences = true := by simpa [Relation.hasReferences] using hsettled.references
          have hlocal : checkLocalFields e r = .ok () := by
            unfold checkLocalFields
            rw [List.find?_eq_none.2 fun n hn => by simp [hsettled.localFields n hn]]
          have htable' :
              (e.modifyRelationAt k fun r => { r with foreignTable := some foreign.fullTable }) = e := by
            rw [Entity.modifyRelationAt, FirstMatch.listModify_eq_self hk (by rw [← htable])]
          have hself : s.modifyEntityAt i (fun _ => e) = s := by
            rw [Database.modifyEntityAt, FirstMatch.listModify_eq_self hi rfl]
          have hedit : settleReferences e foreign k r =
              .ok (Edit.succeed (markCarriers (carriers e foreign r)) >>= fun _ =>
              setForeignTable k foreign) := by
            simp [settleReferences, href, hlocal, bind, Except.bind]
          have hrun : (Edit.succeed (markCarriers (carriers e foreign r)) >>= fun _ =>
              setForeignTable k foreign) e = .ok () e := by
            refine bind_eq_ok_iff.2 ⟨(), e, ?_, ?_⟩
            · rw [Edit.succeed, markCarriers_eq_self (hmarked foreign hf)]
            · rw [setForeignTable, Edit.succeed, htable']
          simp [settleRelation, hi, hk, foreignOf, hf, hedit, editAt, hrun, hself]

/-- Only the fields of a relation without pairs can be refused one by one, and distinct ones are not. -/
theorem exists_run_of_settleReferences {edit : Edit Entity Unit}
    (hd : (foreign.primaryKeyNames.map Naming.studlyCase).Nodup) (h : settleReferences e foreign k r = .ok edit) :
    ∃ e', edit e = .ok () e' := by
  obtain ⟨-, -, rfl⟩ | ⟨fields, -, hf, rfl⟩ := settleReferences_cases h
  · exact ⟨_, rfl⟩
  · have hnames := names_of_synthesizeAll hf
    have hfields := marks_of_synthesizeAll hf
    have hnodup : (fields.map (·.1.name)).Nodup := by
      have hcomp : foreign.primaryKeyNames.map
        (fun key => Text.uncapitalize r.fieldName ++ Naming.studlyCase key) =
          (foreign.primaryKeyNames.map Naming.studlyCase).map (Text.uncapitalize r.fieldName ++ ·) := by
        rw [List.map_map]
        rfl
      rw [hnames, hcomp]
      exact hd.map fun _ _ h => (String.append_right_inj _).1 h
    obtain ⟨e₁, h₁⟩ := exists_addReferences (k := k) hnodup fun q hq => ⟨(hfields q hq).1, (hfields q hq).2.1⟩
    exact ⟨_, bind_eq_ok_iff.2 ⟨(), e₁, h₁, rfl⟩⟩

end Finalization

/-- Distinct names of fields, and distinct names for the fields that refer to the key. -/
structure Entity.Regular (e : Entity) : Prop where
  fieldNames : e.fieldNames.Nodup
  keyNames : (e.primaryKeyNames.map Naming.studlyCase).Nodup

def Database.Regular (db : Database) : Prop := ∀ e ∈ db.entities, e.Regular

structure Database.SettledFor (limit : Nat) (heavy : Bool) (name : String) (db : Database) : Prop where
  constrained : ∀ e, db.entity? name = some e → e.Constrained limit heavy
  references : ∀ i k, db.position? name = some i → db.ReferencesSettled i k

namespace Database.Sustains

theorem regular (h : db.Sustains limit db') (hr : db.Regular) : db'.Regular := by
  intro e' he'
  obtain ⟨e, he, hx⟩ := FirstMatch.exists_of_mem' h.entities he'
  have hr := hr e he
  exact ⟨hx.distinct hr.fieldNames, hx.primaryKeyNames_eq ▸ hr.keyNames⟩

theorem constrained (h : db.Sustains limit db') (hc : ∀ e, db.entity? name = some e → e.Constrained limit heavy) :
    ∀ e', db'.entity? name = some e' → e'.Constrained limit heavy := by
  intro e' he'
  obtain ⟨e, he, hx⟩ := h.entity?' he'
  exact hx.constrained (hc e he)

theorem settledFor (h : db.Sustains limit db') (hs : db.SettledFor limit heavy name) :
    db'.SettledFor limit heavy name :=
  ⟨h.constrained hs.constrained, fun i k hi => h.referencesSettled (hs.references i k (h.position?_eq name ▸ hi))⟩

end Database.Sustains

namespace Finalization

theorem replays_settleRelation (i k : Nat) :
    Replays Database.Regular (Database.ReferencesSettled i k) (settleRelation i k) := by
  refine ⟨⟨referencesSettled_of_settleRelation, settleRelation_of_settled⟩, .of_stays fun s t fault hr h => ?_⟩
  rcases settleRelation_cases i k s with ⟨_, hc⟩ | ⟨_, hc⟩ | ⟨e, r, foreign, edit, hi, hk, hf, he, hc⟩
  · rw [hc] at h
    cases h
    rfl
  · rw [hc] at h
    cases h
  · obtain ⟨e', he'⟩ := exists_run_of_settleReferences (hr foreign (Database.mem_of_entity? hf)).keyNames he
    simp [hc, editAt, hi, he'] at h

theorem sustains_settleRelations (limit i : Nat) (relations : List Nat) (db : Database) :
    Keeps (db.Sustains limit) (settleRelations i relations) :=
  (Entity.absorbs_sustained limit db.tableOf?).keeps_settleRelations i relations

theorem replays_settleRelations (i : Nat) (relations : List Nat) :
    Replays Database.Regular (fun db => ∀ k ∈ relations, db.ReferencesSettled i k)
      (settleRelations i relations) := by
  induction relations with
  | nil => exact .imp .pure (by simp)
  | cons k rest ih =>
      have hJ := keeps_of_sustains 0 (sustains_settleRelation 0 i k) fun _ _ h => h.regular
      have hD : Keeps (Database.ReferencesSettled i k) (settleRelations i rest) :=
        keeps_of_sustains 0 (sustains_settleRelations 0 i rest) fun _ _ h => h.referencesSettled
      exact .imp (.bind (replays_settleRelation i k) ih hJ hD) fun _ => List.forall_mem_cons

theorem sustains_settleRelationsOf (limit : Nat) (name : String) (db : Database) :
    Keeps (db.Sustains limit) (settleRelationsOf name) :=
  (Entity.absorbs_sustained limit db.tableOf?).keeps_settleRelationsOf name

theorem settleRelationsOf_eq (hp : s.position? name = some i) (hi : s.entities[i]? = some e) :
    settleRelationsOf name s = settleRelations i (List.range e.relations.length) s := by
  simp [settleRelationsOf, hp, hi]

/-- No relation appears or goes away, so the second run goes through the same places. -/
theorem replays_settleRelationsOf (name : String) :
    Replays Database.Regular (fun db => ∀ i k, db.position? name = some i → db.ReferencesSettled i k)
      (settleRelationsOf name) := by
  refine ⟨⟨fun {s t} h i k hp => ?_, fun {s} h => ?_⟩, fun s t fault hr h => ?_⟩
  · intro e' r' he' hr'
    have hx := (sustains_settleRelationsOf 0 name s).of_ok h (.refl 0 s)
    obtain ⟨e, he, hxe⟩ := FirstMatch.exists_of_getElem?' hx.entities he'
    rw [settleRelationsOf_eq (hx.position?_eq name ▸ hp) he] at h
    have hk : k ∈ List.range e.relations.length := by
      rw [List.mem_range, hxe.relations.length_eq]
      exact (List.getElem?_eq_some_iff.1 hr').1
    exact (replays_settleRelations i _).establishes.done h k hk e' r' he' hr'
  · cases hp : s.position? name with
    | none => simp [settleRelationsOf, hp]
    | some i =>
        cases hi : s.entities[i]? with
        | none => simp [settleRelationsOf, hp, hi]
        | some e =>
            rw [settleRelationsOf_eq hp hi]
            exact (replays_settleRelations i _).establishes.idle fun k _ => h i k hp
  · have hx := (sustains_settleRelationsOf 0 name s).of_error h (.refl 0 s)
    cases hp : s.position? name with
    | none => simp [settleRelationsOf, hp] at h
    | some i =>
        cases hi : s.entities[i]? with
        | none => simp [settleRelationsOf, hp, hi] at h
        | some e =>
            obtain ⟨e', he', hxe⟩ := FirstMatch.exists_of_getElem? hx.entities hi
            rw [settleRelationsOf_eq hp hi] at h
            rw [settleRelationsOf_eq (hx.position?_eq name ▸ hp) he', ← hxe.relations.length_eq]
            exact (replays_settleRelations i _).repeats hr h

theorem sustains_settle (p : Platform) (heavy : Bool) (name : String) (db : Database) :
    Keeps (db.Sustains p.maxIdentifierLength) (settle p heavy name) :=
  (Entity.absorbs_sustained _ db.tableOf?).keeps_settle heavy name

theorem replays_settle (p : Platform) (heavy : Bool) (name : String) :
    Replays Database.Regular (Database.SettledFor p.maxIdentifierLength heavy name) (settle p heavy name) := by
  have hR (tables : String → Option String) := Entity.absorbs_sustained p.maxIdentifierLength tables
  have hentity := Database.Replays.editEntity (replays_settleEntity p heavy)
    (fun e => .of_rel (fun e₀ => (hR fun _ => none).keeps_settleEntity heavy) .refl
      fun s t h hs => Entity.SameNames.trans hs h.sameNames) name
  have hregular : Replays Database.Regular _ _ :=
    ⟨hentity.establishes, fun _ _ _ hr h => hentity.repeats (fun e he => (hr e he).fieldNames) h⟩
  have hkeeps (db : Database) :
      Keeps (db.Sustains p.maxIdentifierLength) (Database.editEntity name (settleEntity p heavy)) :=
    Database.Related.keeps_editEntity name fun _ => (hR _).keeps_settleEntity heavy
  refine .imp (.bind hregular (replays_settleRelationsOf name) (keeps_of_sustains _ hkeeps fun _ _ h => h.regular)
    (keeps_of_sustains p.maxIdentifierLength (sustains_settleRelationsOf _ name) fun _ _ h => h.constrained))
      fun db => ?_
  exact ⟨fun h => ⟨h.constrained, h.references⟩, fun ⟨hc, hs⟩ => ⟨hc, hs⟩⟩

theorem sustains_settleAll (p : Platform) (heavy : Bool) (names : List String) (db : Database) :
    Keeps (db.Sustains p.maxIdentifierLength) (settleAll p heavy names) :=
  (Entity.absorbs_sustained _ db.tableOf?).keeps_settleAll heavy names

theorem replays_settleAll (p : Platform) (heavy : Bool) (names : List String) :
    Replays Database.Regular (fun db => ∀ name ∈ names, db.SettledFor p.maxIdentifierLength heavy name)
      (settleAll p heavy names) := by
  induction names with
  | nil => exact .imp .pure (by simp)
  | cons name rest ih =>
      have hJ := keeps_of_sustains _ (sustains_settle p heavy name) fun _ _ h => h.regular
      have hD : Keeps (Database.SettledFor p.maxIdentifierLength heavy name) (settleAll p heavy rest) :=
        keeps_of_sustains _ (sustains_settleAll p heavy rest) fun _ _ h => h.settledFor
      exact .imp (.bind (replays_settle p heavy name) ih hJ hD) fun _ => List.forall_mem_cons

end Finalization

end Tablecraft
