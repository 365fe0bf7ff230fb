import Mathlib.Data.List.Induction
import Tablecraft.Proofs.Model.Indices
import Tablecraft.Proofs.Model.Ownership

namespace Tablecraft

inductive LooseChange
  | rename (name : String)
  | inPlace (c : EntityChange)

namespace Entity

variable {e e' : Entity} {i : Index} {m : IndexMember} {name : String} {members : List IndexMember}

def changeLoose (e : Entity) : LooseChange → Entity
  | .rename name => e.setName name
  | .inPlace c => (e.change c).2

def runLoose (e : Entity) (changes : List LooseChange) : Entity := changes.foldl changeLoose e

theorem runLoose_concat (e : Entity) (changes : List LooseChange) (c : LooseChange) :
    e.runLoose (changes ++ [c]) = (e.runLoose changes).changeLoose c := by
  rw [runLoose, List.foldl_concat, runLoose]

def memberLists (e : Entity) : List (List IndexMember) := e.allIndices.map (·.members)

theorem mem_memberLists_iff : members ∈ e.memberLists ↔ ∃ i ∈ e.allIndices, i.members = members := List.mem_map

structure KeepsMembers (gone : String → Prop) (e e' : Entity) : Prop where
  fields : ∀ name ∈ e.fieldNames, gone name ∨ name ∈ e'.fieldNames
  members : ∀ members ∈ e'.memberLists, members ∈ e.memberLists ∨ ∀ m ∈ members, m.name ∈ e'.fieldNames

variable {gone : String → Prop}

theorem KeepsMembers.of_eq (hf : e'.fieldNames = e.fieldNames) (hm : e'.memberLists = e.memberLists) :
    KeepsMembers gone e e' := by
  refine ⟨fun name hname => .inr ?_, fun members hmembers => .inl ?_⟩
  · rwa [hf]
  · rwa [← hm]

theorem KeepsMembers.mono {gone' : String → Prop} (h : KeepsMembers gone e e')
    (hgone : ∀ name, gone name → gone' name) :
    KeepsMembers gone' e e' :=
  ⟨fun name hname => (h.fields name hname).imp_left (hgone name), h.members⟩

theorem KeepsMembers.rewire (hf : e'.fields = e.fields) (hm : e'.allIndices = e.allIndices) :
    KeepsMembers gone e e'.rewire := by
  apply of_eq
  · simp [fieldNames, Entity.rewire, Function.comp_def, hf]
  · rw [memberLists, memberLists, ← hm]
    simp [allIndices, Entity.rewire, Function.comp_def]

theorem KeepsMembers.setNameLimit (limit : Nat) : KeepsMembers gone e (e.setNameLimit limit) :=
  of_eq rfl (by simp [memberLists, allIndices, Entity.setNameLimit, Function.comp_def])

theorem KeepsMembers.addField {f : Field} (h : e.addField f = .ok e') : KeepsMembers gone e e' := by
  obtain ⟨-, -, rfl⟩ := addField_eq_ok h
  have hnames : (e.appendField f).fieldNames = e.fieldNames ++ [f.name] := by simp [fieldNames, appendField]
  refine ⟨fun name hname => .inr ?_, fun members hmembers => .inl hmembers⟩
  rw [hnames]
  exact List.mem_append_left _ hname

theorem KeepsMembers.removeField? {f : Field} (h : e.removeField? name = some (f, e')) :
    KeepsMembers (· = name) e e' := by
  obtain ⟨⟨g, rest⟩, hextract, heq⟩ := Option.map_eq_some_iff.1 h
  obtain ⟨-, rfl⟩ := Prod.mk.inj heq
  obtain ⟨hg, hperm⟩ := FirstMatch.perm_of_extract? hextract
  have hrest : ({ e with fields := renumber rest } : Entity).fieldNames = rest.map (·.name) :=
    List.ext_getElem (by simp [fieldNames, renumber]) fun i _ _ => by simp [fieldNames, renumber]
  refine ⟨fun other hother => ?_, fun members hmembers => .inl hmembers⟩
  rw [hrest]
  rcases List.mem_cons.1 ((hperm.map (·.name)).mem_iff.1 hother) with rfl | hmem
  · exact .inl (by simpa using hg)
  · exact .inr hmem

theorem KeepsMembers.of_admitIndex (h : ∃ j, e.admitIndex i = .ok j ∧ e'.allIndices.Perm (j :: e.allIndices))
    (hf : e'.fieldNames = e.fieldNames) : KeepsMembers gone e e' := by
  obtain ⟨j, hj, hperm⟩ := h
  obtain ⟨rfl, -, hfields, -⟩ := admitIndex_eq_ok hj
  refine ⟨fun name hname => .inr (hf ▸ hname), fun members hmembers => ?_⟩
  rcases List.mem_cons.1 ((hperm.map (·.members)).mem_iff.1 hmembers) with rfl | hold
  · exact .inr fun m hm => hf ▸ hasField_iff.1 (hfields m hm)
  · exact .inl hold

theorem KeepsMembers.addIndex (h : e.addIndex i = .ok e') : KeepsMembers gone e e' := by
  apply of_admitIndex (perm_addIndex h)
  obtain ⟨j, -, rfl⟩ := addIndex_eq_ok h
  rfl

theorem KeepsMembers.addUnique (h : e.addUnique i = .ok e') : KeepsMembers gone e e' := by
  apply of_admitIndex (perm_addUnique h)
  obtain ⟨j, -, rfl⟩ := addUnique_eq_ok h
  rfl

theorem KeepsMembers.removeIndex? (h : e.removeIndex? name = some (i, e')) : KeepsMembers gone e e' := by
  obtain ⟨-, rest, rfl, hs⟩ | ⟨-, rest, rfl, hs⟩ := removeIndex?_eq_some h
  · exact ⟨fun _ => .inr, fun _ hmembers => .inl (((hs.append_right _).map _).subset hmembers)⟩
  · exact ⟨fun _ => .inr, fun _ hmembers => .inl (((hs.append_left _).map _).subset hmembers)⟩

theorem KeepsMembers.removeRelation? {r : Relation} (h : e.removeRelation? name = some (r, e')) :
    KeepsMembers gone e e' := by
  obtain ⟨⟨s, rest⟩, -, heq⟩ := Option.map_eq_some_iff.1 h
  obtain ⟨-, rfl⟩ := Prod.mk.inj heq
  exact of_eq rfl rfl

theorem KeepsMembers.ofAddition {r : Except Fault Entity} (h : ∀ e', r = .ok e' → KeepsMembers gone e e') :
    KeepsMembers gone e (Outcome.ofAddition e r).2 := Outcome.kept_ofAddition (of_eq rfl rfl) h

theorem KeepsMembers.ofRemoval {α : Type} {part : α → Removed} {r : Option (α × Entity)}
    (h : ∀ a e', r = some (a, e') → KeepsMembers gone e e') :
    KeepsMembers gone e (Outcome.ofRemoval part e r).2 := Outcome.kept_ofRemoval (of_eq rfl rfl) h

theorem keepsMembers_changeLoose (e : Entity) (c : LooseChange) :
    KeepsMembers (fun name => c = .inPlace (.removeField name)) e (e.changeLoose c) := by
  cases c with
  | rename name => exact .rewire rfl rfl
  | inPlace c =>
      cases c with
      | addField f => exact .ofAddition fun _ => .addField
      | removeField name =>
          exact (KeepsMembers.ofRemoval fun _ _ => .removeField?).mono fun _ hname => hname ▸ rfl
      | setTable table => exact .rewire rfl rfl
      | addIndex i => exact .ofAddition fun _ => .addIndex
      | addUnique i => exact .ofAddition fun _ => .addUnique
      | removeIndex name => exact .ofRemoval fun _ _ => .removeIndex?
      | addRelation r => exact .of_eq rfl rfl
      | removeRelation name => exact .ofRemoval fun _ _ => .removeRelation?
      | setNameLimit limit => exact .setNameLimit limit

/-- The field of that name is removed by one of the changes, and no field of the name is there from then on.
-/
structure LostBetween (e : Entity) (name : String) (before after : List LooseChange) : Prop where
  present : (e.runLoose before).hasField name = true
  absent : ∀ k, (e.runLoose (before ++ .inPlace (.removeField name) :: after.take k)).hasField name = false

theorem LostBetween.concat {before after : List LooseChange} {c : LooseChange}
    (h : e.LostBetween name before after)
    (hlast : (e.runLoose (before ++ .inPlace (.removeField name) :: (after ++ [c]))).hasField name = false) :
    e.LostBetween name before (after ++ [c]) := by
  refine ⟨h.present, fun k => ?_⟩
  by_cases hk : k ≤ after.length
  · rw [List.take_append_of_le_length hk]
    exact h.absent k
  · rwa [List.take_of_length_le (by rw [List.length_append, List.length_singleton]; omega)]

theorem exists_lostBetween (he : e.allIndices = []) {changes : List LooseChange}
    (hmembers : members ∈ (e.runLoose changes).memberLists) (hm : m ∈ members)
    (hdangling : (e.runLoose changes).hasField m.name = false) :
    ∃ before after, changes = before ++ .inPlace (.removeField m.name) :: after ∧
      members ∈ (e.runLoose before).memberLists ∧ e.LostBetween m.name before after := by
  induction changes using List.reverseRecOn with
  | nil =>
      have hnone : e.memberLists = [] := by rw [memberLists, he, List.map_nil]
      rw [runLoose, List.foldl_nil, hnone] at hmembers
      cases hmembers
  | append_singleton changes c ih =>
      have hstep := keepsMembers_changeLoose (e.runLoose changes) c
      rw [runLoose_concat] at hmembers hdangling
      have habsent : m.name ∉ ((e.runLoose changes).changeLoose c).fieldNames := by
        rw [← hasField_iff, hdangling]
        exact Bool.false_ne_true
      have hold : members ∈ (e.runLoose changes).memberLists :=
        (hstep.members members hmembers).resolve_right fun hnew => habsent (hnew m hm)
      by_cases hpresent : (e.runLoose changes).hasField m.name = true
      · obtain rfl := (hstep.fields m.name (hasField_iff.1 hpresent)).resolve_right habsent
        refine ⟨changes, [], rfl, hold, hpresent, fun k => ?_⟩
        rw [List.take_nil, runLoose_concat, hdangling]
      · obtain ⟨before, after, rfl, hunder, hlost⟩ := ih hold (Bool.eq_false_iff.2 hpresent)
        refine ⟨before, after ++ [c], by simp, hunder, hlost.concat ?_⟩
        rw [← hdangling, ← runLoose_concat]
        simp

/-- Whatever happens to an entity that starts without indices: a member of an index or constraint has no field
exactly if the field was removed when the index was there already, and none of its name came back since. -/
theorem dangling_iff_removed (he : e.allIndices = []) (changes : List LooseChange)
    (hi : i ∈ (e.runLoose changes).allIndices) (hm : m ∈ i.members) :
    (e.runLoose changes).hasField m.name = false ↔
      ∃ before after, changes = before ++ .inPlace (.removeField m.name) :: after ∧
        (∃ j ∈ (e.runLoose before).allIndices, j.members = i.members) ∧
        (e.runLoose before).hasField m.name = true ∧
        ∀ k, (e.runLoose (before ++ .inPlace (.removeField m.name) :: after.take k)).hasField m.name = false := by
  constructor
  · intro hdangling
    obtain ⟨before, after, hchanges, hunder, hlost⟩ :=
      exists_lostBetween he (mem_memberLists_iff.2 ⟨i, hi, rfl⟩) hm hdangling
    exact ⟨before, after, hchanges, mem_memberLists_iff.1 hunder, hlost.present, hlost.absent⟩
  · rintro ⟨before, after, rfl, -, -, habsent⟩
    have hlast := habsent after.length
    rwa [List.take_length] at hlast

def untitling : List LooseChange :=
  [.inPlace (.addField { name := "title", domain := .ofType .varchar }),
    .inPlace (.addIndex (.ofNames ["title"])), .inPlace (.removeField "title")]

theorem dangling_iff_removed_untitling :
    let book : Entity := { name := "book" }
    let i : Index := { Index.ofNames ["title"] with table := some "book" }
    i ∈ (book.runLoose untitling).allIndices ∧ (book.runLoose untitling).hasField "title" = false ∧
      ((book.runLoose untitling).hasField "title" = false ↔
        ∃ before after, untitling = before ++ .inPlace (.removeField "title") :: after ∧
          (∃ j ∈ (book.runLoose before).allIndices, j.members = i.members) ∧
          (book.runLoose before).hasField "title" = true ∧
          ∀ k, (book.runLoose (before ++ .inPlace (.removeField "title") :: after.take k)).hasField
            "title" = false) := by
  intro book i
  have hi : i ∈ (book.runLoose untitling).allIndices := by decide
  exact ⟨hi, by decide, dangling_iff_removed (m := { name := "title" }) rfl untitling hi (by decide)⟩

theorem dangling_member_of_untitling :
    let book : Entity := { name := "book" }
    ¬∀ i ∈ (book.runLoose untitling).allIndices, ∀ m ∈ i.members,
        (book.runLoose untitling).hasField m.name = true := by
  decide

end Entity

end Tablecraft
