import Tablecraft.Diff.Basic
import Tablecraft.Proofs.EditRuns
import Tablecraft.Proofs.FirstMatch

namespace Tablecraft

open List Edit

structure ConstraintNames where
  primaryKey : String
  indices : List String
  uniques : List String
  relations : List String
  deriving DecidableEq, Repr

structure GivenNames where
  primaryKey : Option String
  indices : List (Option String)
  uniques : List (Option String)
  relations : List (Option String)
  deriving DecidableEq, Repr

def ConstraintNames.given (names : ConstraintNames) : GivenNames where
  primaryKey := some names.primaryKey
  indices := names.indices.map some
  uniques := names.uniques.map some
  relations := names.relations.map some

inductive Relabeling
  | table (table : Option String)
  | name (name : String)
  | nameLimit (limit : Nat)

namespace Entity

variable {e : Entity} {names : ConstraintNames}

def constraintNames (e : Entity) : ConstraintNames where
  primaryKey := e.primaryKeyName
  indices := e.indices.map (·.name)
  uniques := e.uniques.map (·.name)
  relations := e.relations.map (·.name)

def givenNames (e : Entity) : GivenNames where
  primaryKey := e.givenPrimaryKeyName
  indices := e.indices.map (·.givenName)
  uniques := e.uniques.map (·.givenName)
  relations := e.relations.map (·.givenName)

def relabel (e : Entity) : Relabeling → Entity
  | .table table => e.setTable table
  | .name name => e.setName name
  | .nameLimit limit => e.setNameLimit limit

/-- The constraints go by these names, and all of them are given. -/
def GoesBy (e : Entity) (names : ConstraintNames) : Prop := e.givenNames = names.given

theorem givenNames_rewire (e : Entity) : e.rewire.givenNames = e.givenNames := by
  simp [givenNames, rewire, Relation.setOwner, Function.comp_def]

theorem givenNames_relabel (e : Entity) (change : Relabeling) : (e.relabel change).givenNames = e.givenNames := by
  cases change with
  | table table => exact givenNames_rewire { e with givenTable := table }
  | name name => exact givenNames_rewire { e with name }
  | nameLimit limit => simp [relabel, setNameLimit, givenNames, Function.comp_def]

theorem goesBy_retabled (e : Entity) (table : String) : (e.retabled table).GoesBy e.constraintNames := by
  unfold GoesBy retabled setTable
  rw [givenNames_rewire]
  simp [givenNames, constraintNames, ConstraintNames.given, Index.pinName, Relation.pinName, Function.comp_def]

theorem GoesBy.relabel (h : e.GoesBy names) (change : Relabeling) : (e.relabel change).GoesBy names :=
  (givenNames_relabel e change).trans h

theorem GoesBy.relabelAll (h : e.GoesBy names) (changes : List Relabeling) :
    (changes.foldl Entity.relabel e).GoesBy names := by
  induction changes generalizing e with
  | nil => exact h
  | cons change rest ih => exact ih (h.relabel change)

theorem map_eq_of_given {α : Type} {given : α → Option String} {name : α → String}
    (hname : ∀ x n, given x = some n → name x = n) {xs : List α} {ns : List String}
    (h : xs.map given = ns.map some) : xs.map name = ns := by
  induction xs generalizing ns with
  | nil => exact (List.map_eq_nil_iff.1 h.symm).symm
  | cons x rest ih =>
      cases ns with
      | nil => simp at h
      | cons n ns =>
          obtain ⟨hx, hrest⟩ := List.cons.inj h
          rw [List.map_cons, hname x n hx, ih hrest]

theorem GoesBy.constraintNames_eq (h : e.GoesBy names) : e.constraintNames = names := by
  have hindex (i : Index) (n : String) (hi : i.givenName = some n) : i.name = n := by simp [Index.name, hi]
  have hrelation (r : Relation) (n : String) (hr : r.givenName = some n) :
      r.name = n := by simp [Relation.name, hr]
  obtain ⟨hkey, hindices, huniques, hrelations⟩ := GivenNames.mk.inj h
  simp only [constraintNames, primaryKeyName, hkey, map_eq_of_given hindex hindices,
    map_eq_of_given hindex huniques, map_eq_of_given hrelation hrelations, Option.getD_some]

end Entity

variable {table : String} {d : EntityDiff} {diff : DatabaseDiff} {source old : Entity}

structure Index.MovedTo (newTable : String) (i j : Index) : Prop where
  table : j.table = some newTable
  name : j.name = i.name
  frame : j = { i with givenName := j.givenName, table := j.table }

structure Relation.MovedTo (owner newTable : String) (r s : Relation) : Prop where
  entity : s.entity = some owner
  table : s.table = some newTable
  name : s.name = r.name
  frame : s = { r with givenName := s.givenName, entity := s.entity, table := s.table }

structure Entity.MovedTo (newTable : String) (e e' : Entity) : Prop where
  table : e'.table = newTable
  primaryKey : e'.primaryKeyName = e.primaryKeyName
  fields : e'.fields = e.fields.map fun f => { f with entity := some e.name }
  indices : Forall₂ (Index.MovedTo newTable) e.indices e'.indices
  uniques : Forall₂ (Index.MovedTo newTable) e.uniques e'.uniques
  relations : Forall₂ (Relation.MovedTo e.name newTable) e.relations e'.relations
  frame : e' =
    { e with
      givenTable := e'.givenTable, givenPrimaryKeyName := e'.givenPrimaryKeyName, fields := e'.fields
      indices := e'.indices, uniques := e'.uniques, relations := e'.relations }

theorem Index.movedTo_pinName (i : Index) (table : String) :
    i.MovedTo table { i.pinName with table := some table } :=
  ⟨rfl, rfl, rfl⟩

theorem Relation.movedTo_pinName (r : Relation) (owner table : String) :
    r.MovedTo owner table (r.pinName.setOwner (some owner) (some table)) :=
  ⟨rfl, rfl, rfl, rfl⟩

theorem Entity.movedTo_retabled (e : Entity) (table : String) : e.MovedTo table (e.retabled table) where
  table := rfl
  primaryKey := rfl
  fields := rfl
  indices := by simpa [retabled, setTable, rewire, Entity.table] using fun i _ => i.movedTo_pinName table
  uniques := by simpa [retabled, setTable, rewire, Entity.table] using fun i _ => i.movedTo_pinName table
  relations := by simpa [retabled, setTable, rewire, Entity.table] using fun r _ => r.movedTo_pinName e.name table
  frame := rfl

/-- On another table an entity is the one that it was, constraint by constraint under the names that it had,
and these stay whatever its table, its name and the limit become after that. -/
theorem Entity.constraintNames_retabled (e : Entity) (table : String) (changes : List Relabeling) :
    e.MovedTo table (e.retabled table) ∧
      (changes.foldl Entity.relabel (e.retabled table)).constraintNames = e.constraintNames :=
  ⟨e.movedTo_retabled table, ((e.goesBy_retabled table).relabelAll changes).constraintNames_eq⟩

theorem entity?_of_findEntity {db : Database} {e : Entity} {side : Side} {name : String}
    (h : db.findEntity side name = .ok e) : db.entity? name = some e := by
  unfold Database.findEntity at h
  split at h
  · rename_i he
    rw [he, Except.ok.inj h]
  · cases h

theorem renamedSource_eq_ok (h : diff.renamedSource d = .ok old) :
    ∃ source, diff.source.entity? d.source = some source ∧
      (diff.renamedEntities.find? (·.source == d.source) = none ∧ old = source ∨
        ∃ pair target, diff.renamedEntities.find? (·.source == d.source) = some pair ∧
          diff.target.entity? pair.target = some target ∧
          old = if target.table = source.table then source else source.retabled target.table) := by
  obtain ⟨source, hs, h⟩ := except_bind_eq_ok_iff.1 h
  refine ⟨source, entity?_of_findEntity hs, ?_⟩
  cases hp : diff.renamedEntities.find? (·.source == d.source) with
  | none => exact .inl ⟨rfl, by simpa [hp, eq_comm] using h⟩
  | some pair =>
      simp only [hp] at h
      obtain ⟨target, ht, h⟩ := except_bind_eq_ok_iff.1 h
      exact .inr ⟨pair, target, rfl, entity?_of_findEntity ht, (Except.ok.inj h).symm⟩

theorem eq_or_retabled_of_renamedSource (hs : diff.source.entity? d.source = some source)
    (h : diff.renamedSource d = .ok old) : old = source ∨ ∃ table, old = source.retabled table := by
  obtain ⟨found, hfound, ⟨-, rfl⟩ | ⟨pair, target, -, -, rfl⟩⟩ := renamedSource_eq_ok h
  · exact .inl (Option.some.inj (hfound.symm.trans hs))
  · obtain rfl := Option.some.inj (hfound.symm.trans hs)
    split
    · exact .inl rfl
    · exact .inr ⟨_, rfl⟩

/-- Without renamed entities an entity is changed under its old name. -/
theorem entity?_of_renamedSource (hr : diff.renamedEntities = []) (h : diff.renamedSource d = .ok old) :
    diff.source.entity? d.source = some old := by
  obtain ⟨source, hs, ⟨-, rfl⟩ | ⟨pair, target, hp, -⟩⟩ := renamedSource_eq_ok h
  · exact hs
  · simp [hr] at hp

end Tablecraft
