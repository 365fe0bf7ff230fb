import Tablecraft.Proofs.Model.Names
import Tablecraft.Proofs.Model.Parts

namespace Tablecraft

open List

namespace Entity

variable {e e' : Entity} {name : String} {owner : Option String}

/-- The entity knows its owner, the parts know the entity, and no two fields share a name. -/
structure Owned (owner : Option String) (e : Entity) : Prop where
  database : e.database = owner
  nodup : e.fieldNames.Nodup
  numbered : e.Numbered
  fields : ∀ f ∈ e.fields, f.entity = some e.name
  indices : ∀ i ∈ e.allIndices, i.table = some e.table
  relations : ∀ r ∈ e.relations, r.entity = some e.name ∧ r.table = some e.table

theorem Owned.rewire (hb : e.database = owner) (hd : e.fieldNames.Nodup) (hn : e.Numbered) :
    e.rewire.Owned owner := by
  refine ⟨hb, ?_, ?_, ?_, ?_, ?_⟩
  · simpa [fieldNames, Entity.rewire, Function.comp_def] using hd
  · simpa [Numbered, Entity.rewire, Function.comp_def] using hn
  · simp [Entity.rewire]
  · simp [Entity.rewire, allIndices, or_imp, forall_and, Entity.table]
  · simp [Entity.rewire, Relation.setOwner, Entity.table]

theorem Owned.setName (h : e.Owned owner) (name : String) : (e.setName name).Owned owner :=
  .rewire (e := { e with name }) h.database h.nodup h.numbered

theorem Owned.setTable (h : e.Owned owner) (table : Option String) : (e.setTable table).Owned owner :=
  .rewire (e := { e with givenTable := table }) h.database h.nodup h.numbered

theorem Owned.setNameLimit (h : e.Owned owner) (limit : Nat) : (e.setNameLimit limit).Owned owner := by
  refine ⟨h.database, h.nodup, h.numbered, h.fields, ?_, ?_⟩
  · have hi := h.indices
    simp only [allIndices, List.forall_mem_append] at hi
    simpa [allIndices, Entity.setNameLimit, or_imp, forall_and, Entity.table] using hi
  · simpa [Entity.setNameLimit, Entity.table] using h.relations

theorem Owned.addField (h : e.Owned owner) {f : Field} (ha : e.addField f = .ok e') : e'.Owned owner := by
  obtain ⟨hn, _, rfl⟩ := addField_eq_ok ha
  refine ⟨h.database, nodup_appendField h.nodup hn, h.numbered.appendField f, ?_, h.indices, h.relations⟩
  simpa [appendField, or_imp, forall_and] using h.fields

theorem Owned.removeField? (h : e.Owned owner) {f : Field} (hr : e.removeField? name = some (f, e')) :
    e'.Owned owner ∧ f.entity = none := by
  have hnum := numbered_removeField? hr
  obtain ⟨⟨g, rest⟩, hx, heq⟩ := Option.map_eq_some_iff.1 hr
  obtain ⟨rfl, rfl⟩ := Prod.mk.inj heq
  have hs := (FirstMatch.mem_of_extract? hx).2
  have hnames : ({ e with fields := renumber rest } : Entity).fieldNames = rest.map (·.name) :=
    List.ext_getElem (by simp [fieldNames, renumber]) fun i _ _ => by simp [fieldNames, renumber]
  refine ⟨⟨h.database, ?_, hnum, ?_, h.indices, h.relations⟩, rfl⟩
  · rw [hnames]
    exact h.nodup.sublist (hs.map _)
  · intro x hm
    obtain ⟨i, hi, rfl⟩ := List.mem_mapIdx.1 hm
    exact h.fields rest[i] (hs.subset (List.getElem_mem hi))

theorem Owned.withIndices (h : e.Owned owner) {indices uniques : List Index}
    (hi : ∀ i ∈ indices ++ uniques, i.table = some e.table) : Owned owner { e with indices, uniques } :=
  ⟨h.database, h.nodup, h.numbered, h.fields, hi, h.relations⟩

theorem Owned.addIndex (h : e.Owned owner) {i : Index} (ha : e.addIndex i = .ok e') : e'.Owned owner := by
  obtain ⟨j, hj, rfl⟩ := addIndex_eq_ok ha
  obtain ⟨rfl, _⟩ := admitIndex_eq_ok hj
  have hi := h.indices
  simp only [allIndices, List.forall_mem_append] at hi
  exact h.withIndices (by simpa [or_imp, forall_and] using hi)

theorem Owned.addUnique (h : e.Owned owner) {i : Index} (ha : e.addUnique i = .ok e') : e'.Owned owner := by
  obtain ⟨j, hj, rfl⟩ := addUnique_eq_ok ha
  obtain ⟨rfl, _⟩ := admitIndex_eq_ok hj
  have hi := h.indices
  simp only [allIndices, List.forall_mem_append] at hi
  exact h.withIndices (by simpa [or_imp, forall_and] using hi)

theorem removeIndex?_eq_some {i : Index} (hr : e.removeIndex? name = some (i, e')) :
    i.table = none ∧ (∃ rest, e' = { e with indices := rest } ∧ rest.Sublist e.indices) ∨
      i.table = none ∧ ∃ rest, e' = { e with uniques := rest } ∧ rest.Sublist e.uniques := by
  unfold removeIndex? at hr
  split at hr
  · rename_i j rest hx
    cases hr
    exact .inl ⟨rfl, rest, rfl, (FirstMatch.mem_of_extract? hx).2⟩
  · obtain ⟨⟨j, rest⟩, hx, heq⟩ := Option.map_eq_some_iff.1 hr
    cases heq
    exact .inr ⟨rfl, rest, rfl, (FirstMatch.mem_of_extract? hx).2⟩

theorem Owned.removeIndex? (h : e.Owned owner) {i : Index} (hr : e.removeIndex? name = some (i, e')) :
    e'.Owned owner ∧ i.table = none := by
  obtain ⟨hi, rest, rfl, hs⟩ | ⟨hi, rest, rfl, hs⟩ := removeIndex?_eq_some hr
  · exact ⟨h.withIndices fun j hj => h.indices j ((hs.append_right _).subset hj), hi⟩
  · exact ⟨h.withIndices fun j hj => h.indices j ((hs.append_left _).subset hj), hi⟩

theorem Owned.addRelation (h : e.Owned owner) (r : Relation) : (e.addRelation r).Owned owner := by
  refine ⟨h.database, h.nodup, h.numbered, h.fields, h.indices, ?_⟩
  have hr := h.relations
  simp only [Entity.addRelation, List.forall_mem_append]
  exact ⟨hr, by simp [Relation.setOwner, Entity.table]⟩

theorem Owned.removeRelation? (h : e.Owned owner) {r : Relation} (hr : e.removeRelation? name = some (r, e')) :
    e'.Owned owner ∧ r.entity = none ∧ r.table = none := by
  obtain ⟨⟨s, rest⟩, hx, heq⟩ := Option.map_eq_some_iff.1 hr
  obtain ⟨rfl, rfl⟩ := Prod.mk.inj heq
  have hs := (FirstMatch.mem_of_extract? hx).2
  exact ⟨⟨h.database, h.nodup, h.numbered, h.fields, h.indices, fun s hm => h.relations s (hs.subset hm)⟩,
    rfl, rfl⟩

end Entity

inductive Removed
  | entity (e : Entity)
  | field (f : Field)
  | index (i : Index)
  | relation (r : Relation)

def Removed.Detached : Removed → Prop
  | entity e => e.Owned none
  | field f => f.entity = none
  | index i => i.table = none
  | relation r => r.entity = none ∧ r.table = none

inductive Outcome
  | done
  | removed (part : Removed)
  | missing
  | refused (fault : Fault)

def Outcome.Failed : Outcome → Prop
  | done | removed _ => False
  | missing | refused _ => True

section

variable {σ α : Type}

def Outcome.ofAddition (s : σ) : Except Fault σ → Outcome × σ
  | .ok t => (.done, t)
  | .error fault => (.refused fault, s)

def Outcome.ofRemoval (part : α → Removed) (s : σ) : Option (α × σ) → Outcome × σ
  | some (a, t) => (.removed (part a), t)
  | none => (.missing, s)

theorem Outcome.kept_ofAddition {P : σ → Prop} {s : σ} (hs : P s) {r : Except Fault σ}
    (h : ∀ t, r = .ok t → P t) :
    P (Outcome.ofAddition s r).2 := by
  cases r with
  | ok t => exact h t rfl
  | error fault => exact hs

theorem Outcome.kept_ofRemoval {P : σ → Prop} {s : σ} {part : α → Removed} (hs : P s) {r : Option (α × σ)}
    (h : ∀ a t, r = some (a, t) → P t) : P (Outcome.ofRemoval part s r).2 := by
  cases r with
  | none => exact hs
  | some at' => exact h at'.1 at'.2 rfl

/-- What a change does to objects of which the property holds: it still holds, what was removed is detached,
and a failure changes nothing. -/
structure Outcome.Proper (P : σ → Prop) (s : σ) (r : Outcome × σ) : Prop where
  kept : P r.2
  detached : ∀ part, r.1 = .removed part → part.Detached
  unchanged : r.1.Failed → r.2 = s

variable {P : σ → Prop} {s : σ}

theorem Outcome.Proper.ofDone {t : σ} (h : P t) : Outcome.Proper P s (.done, t) :=
  ⟨h, by simp, by simp [Failed]⟩

theorem Outcome.Proper.ofMissing (h : P s) : Outcome.Proper P s (.missing, s) := ⟨h, by simp, fun _ => rfl⟩

theorem Outcome.Proper.ofAddition (hs : P s) {r : Except Fault σ} (h : ∀ t, r = .ok t → P t) :
    Outcome.Proper P s (Outcome.ofAddition s r) := by
  cases r with
  | ok t => exact .ofDone (h t rfl)
  | error fault => exact ⟨hs, by simp [Outcome.ofAddition], fun _ => rfl⟩

theorem Outcome.Proper.ofRemoval {part : α → Removed} (hs : P s) {r : Option (α × σ)}
    (h : ∀ a t, r = some (a, t) → P t ∧ (part a).Detached) : Outcome.Proper P s (Outcome.ofRemoval part s r) := by
  cases r with
  | none => exact .ofMissing hs
  | some at' =>
      obtain ⟨ht, ha⟩ := h at'.1 at'.2 rfl
      exact ⟨ht, by simpa [Outcome.ofRemoval] using ha, by simp [Outcome.ofRemoval, Failed]⟩

def Outcome.atPosition (f : σ → Outcome × σ) (i : Nat) (xs : List σ) : Outcome × List σ :=
  match xs[i]? with
  | some x => ((f x).1, xs.set i (f x).2)
  | none => (.missing, xs)

theorem Outcome.snd_atPosition (f : σ → Outcome × σ) (i : Nat) (xs : List σ) :
    (Outcome.atPosition f i xs).2 = xs.modify i fun x => (f x).2 := by
  rw [Outcome.atPosition, List.modify_eq_set_getElem?]
  cases xs[i]? <;> rfl

theorem Outcome.Proper.atPosition {f : σ → Outcome × σ} {xs : List σ} (hxs : ∀ x ∈ xs, P x)
    (hf : ∀ x, P x → Outcome.Proper P x (f x)) (i : Nat) :
    Outcome.Proper (fun xs => ∀ x ∈ xs, P x) xs (Outcome.atPosition f i xs) := by
  unfold Outcome.atPosition
  split
  · rename_i x hx
    have h := hf x (hxs x (List.mem_of_getElem? hx))
    refine ⟨fun y hy => ?_, h.detached, fun hn => ?_⟩
    · rcases List.mem_or_eq_of_mem_set hy with hy | rfl
      · exact hxs y hy
      · exact h.kept
    · obtain ⟨hi, rfl⟩ := List.getElem?_eq_some_iff.1 hx
      rw [h.unchanged hn, List.set_getElem_self]
  · exact .ofMissing hxs

theorem Outcome.Proper.within {τ : Type} {Q : τ → Prop} {t : τ} {replace : σ → τ} {r : Outcome × σ}
    (h : Outcome.Proper P s r) (hs : replace s = t) (hQ : P r.2 → Q (replace r.2)) :
    Outcome.Proper Q t (r.map id replace) :=
  ⟨hQ h.kept, h.detached, fun hn => by rw [Prod.map_snd, h.unchanged hn, hs]⟩

end

inductive EntityChange
  | addField (f : Field)
  | removeField (name : String)
  | setTable (table : Option String)
  | addIndex (i : Index)
  | addUnique (i : Index)
  | removeIndex (name : String)
  | addRelation (r : Relation)
  | removeRelation (name : String)
  | setNameLimit (limit : Nat)

namespace Entity

def change (e : Entity) : EntityChange → Outcome × Entity
  | .addField f => Outcome.ofAddition e (e.addField f)
  | .removeField name => Outcome.ofRemoval .field e (e.removeField? name)
  | .setTable table => (.done, e.setTable table)
  | .addIndex i => Outcome.ofAddition e (e.addIndex i)
  | .addUnique i => Outcome.ofAddition e (e.addUnique i)
  | .removeIndex name => Outcome.ofRemoval .index e (e.removeIndex? name)
  | .addRelation r => (.done, e.addRelation r)
  | .removeRelation name => Outcome.ofRemoval .relation e (e.removeRelation? name)
  | .setNameLimit limit => (.done, e.setNameLimit limit)

theorem Owned.change {e : Entity} {owner : Option String} (h : e.Owned owner) (c : EntityChange) :
    Outcome.Proper (Owned owner) e (e.change c) := by
  cases c with
  | addField f => exact Outcome.Proper.ofAddition h fun _ => h.addField
  | removeField name => exact Outcome.Proper.ofRemoval h fun _ _ => h.removeField?
  | setTable table => exact .ofDone (h.setTable table)
  | addIndex i => exact Outcome.Proper.ofAddition h fun _ => h.addIndex
  | addUnique i => exact Outcome.Proper.ofAddition h fun _ => h.addUnique
  | removeIndex name => exact Outcome.Proper.ofRemoval h fun _ _ => h.removeIndex?
  | addRelation r => exact .ofDone (h.addRelation r)
  | removeRelation name => exact Outcome.Proper.ofRemoval h fun _ _ => h.removeRelation?
  | setNameLimit limit => exact .ofDone (h.setNameLimit limit)

end Entity

namespace Database

variable {db db' : Database} {e : Entity} {name : String}

def Owns (db : Database) : Prop := ∀ e ∈ db.entities, e.Owned (some db.name)

def changeEntityAt (position : Nat) (c : EntityChange) (db : Database) : Outcome × Database :=
  (Outcome.atPosition (·.change c) position db.entities).map id fun entities => { db with entities }

theorem Owns.changeEntityAt (h : db.Owns) (position : Nat) (c : EntityChange) :
    Outcome.Proper Owns db (db.changeEntityAt position c) :=
  (Outcome.Proper.atPosition h (fun _ he => he.change c) position).within rfl id

theorem Owns.setName (h : db.Owns) (name : String) : (db.setName name).Owns := by
  intro e he
  obtain ⟨e₀, he₀, rfl⟩ := List.mem_map.1 he
  exact { h e₀ he₀ with database := rfl }

theorem Owns.addEntity (h : db.Owns) (he : e.Owned none) (ha : db.addEntity e = .ok db') : db'.Owns := by
  have howned := forall_addEntity h { he with database := rfl } ha
  obtain ⟨-, rfl⟩ := addEntity_eq_ok ha
  exact howned

theorem Owns.removeEntity? (h : db.Owns) (hr : db.removeEntity? name = some (e, db')) :
    db'.Owns ∧ e.Owned none := by
  obtain ⟨e₀, he₀, rfl, hdb, hs⟩ := removeEntity?_eq_some hr
  refine ⟨fun x hx => ?_, { h e₀ he₀ with database := rfl }⟩
  rw [hdb]
  exact h x (hs.subset hx)

end Database

structure Holdings where
  databases : List Database
  loose : List Entity

/-- Databases and entities are given by their positions; an entity changes its name only while it is loose. -/
inductive HoldingsChange
  | renameDatabase (database : Nat) (name : String)
  | addEntity (database loose : Nat)
  | removeEntity (database : Nat) (name : String)
  | changeEntity (database entity : Nat) (c : EntityChange)
  | changeLoose (loose : Nat) (c : EntityChange)
  | renameLoose (loose : Nat) (name : String)

def Outcome.entity? : Outcome → Option Entity
  | removed (.entity e) => some e
  | _ => none

theorem Outcome.entity?_eq_some_iff {o : Outcome} {e : Entity} :
    o.entity? = some e ↔ o = .removed (.entity e) := by
  constructor
  · intro h
    unfold Outcome.entity? at h
    split at h
    · rw [Option.some.inj h]
    · cases h
  · rintro rfl
    rfl

theorem Outcome.entity?_eq_none_of_failed {o : Outcome} (h : o.Failed) : o.entity? = none := by
  cases o with
  | done | removed => exact h.elim
  | missing | refused => rfl

namespace Holdings

variable {w : Holdings}

def changeDatabase (w : Holdings) (database : Nat) (f : Database → Outcome × Database) : Outcome × Holdings :=
  (Outcome.atPosition f database w.databases).map id fun databases => { w with databases }

def changeLoose (w : Holdings) (position : Nat) (f : Entity → Outcome × Entity) : Outcome × Holdings :=
  (Outcome.atPosition f position w.loose).map id fun loose => { w with loose }

def change (w : Holdings) : HoldingsChange → Outcome × Holdings
  | .renameDatabase d name => w.changeDatabase d fun db => (.done, db.setName name)
  | .addEntity d i =>
    match w.loose[i]? with
    | some e => w.changeDatabase d fun db => Outcome.ofAddition db (db.addEntity e)
    | none => (.missing, w)
  | .removeEntity d name =>
    let r := w.changeDatabase d fun db => Outcome.ofRemoval .entity db (db.removeEntity? name)
    (r.1, { r.2 with loose := r.2.loose ++ r.1.entity?.toList })
  | .changeEntity d i c => w.changeDatabase d (Database.changeEntityAt i c)
  | .changeLoose i c => w.changeLoose i (·.change c)
  | .renameLoose i name => w.changeLoose i fun e => (.done, e.setName name)

def run (w : Holdings) (changes : List HoldingsChange) : Holdings := changes.foldl (fun w c => (w.change c).2) w

structure InOrder (w : Holdings) : Prop where
  databases : ∀ db ∈ w.databases, db.Owns
  loose : ∀ e ∈ w.loose, e.Owned none

structure Blank (w : Holdings) : Prop where
  databases : ∀ db ∈ w.databases, db.entities = []
  loose : ∀ e ∈ w.loose, e.database = none ∧ e.fields = [] ∧ e.allIndices = [] ∧ e.relations = []

theorem Blank.inOrder (h : w.Blank) : w.InOrder := by
  refine ⟨fun db hdb e he => ?_, fun e he => ?_⟩
  · rw [h.databases db hdb] at he
    cases he
  · obtain ⟨hd, hf, hi, hr⟩ := h.loose e he
    exact ⟨hd, by simp [Entity.fieldNames, hf], by simp [Entity.Numbered, hf], by simp [hf], by simp [hi],
      by simp [hr]⟩

theorem InOrder.changeDatabase (h : w.InOrder) {f : Database → Outcome × Database}
    (hf : ∀ db, db.Owns → Outcome.Proper Database.Owns db (f db)) (d : Nat) :
    Outcome.Proper InOrder w (w.changeDatabase d f) :=
  (Outcome.Proper.atPosition h.databases hf d).within rfl fun hdb => ⟨hdb, h.loose⟩

theorem InOrder.changeLoose (h : w.InOrder) {f : Entity → Outcome × Entity}
    (hf : ∀ e, e.Owned none → Outcome.Proper (Entity.Owned none) e (f e)) (i : Nat) :
    Outcome.Proper InOrder w (w.changeLoose i f) :=
  (Outcome.Proper.atPosition h.loose hf i).within rfl fun hl => ⟨h.databases, hl⟩

theorem InOrder.removeEntity (h : w.InOrder) (d : Nat) (name : String) :
    Outcome.Proper InOrder w (w.change (.removeEntity d name)) := by
  have hr := h.changeDatabase (f := fun db => Outcome.ofRemoval .entity db (db.removeEntity? name))
    (fun db hdb => .ofRemoval hdb fun _ _ => hdb.removeEntity?) d
  refine ⟨⟨hr.kept.databases, fun e he => ?_⟩, hr.detached, fun hn => ?_⟩
  · rcases List.mem_append.1 he with he | he
    · exact hr.kept.loose e he
    · exact hr.detached (.entity e) (Outcome.entity?_eq_some_iff.1 (Option.mem_toList.1 he))
  · have ho := Outcome.entity?_eq_none_of_failed hn
    simp only [change] at ho ⊢
    simp [ho, hr.unchanged hn]

theorem InOrder.change (h : w.InOrder) (c : HoldingsChange) : Outcome.Proper InOrder w (w.change c) := by
  cases c with
  | renameDatabase d name => exact h.changeDatabase (fun db hdb => .ofDone (hdb.setName name)) d
  | addEntity d i =>
      cases he : w.loose[i]? with
      | none => simpa only [Holdings.change, he] using .ofMissing h
      | some e =>
          have ho := h.loose e (List.mem_of_getElem? he)
          simpa only [Holdings.change, he] using
            h.changeDatabase (fun db hdb => .ofAddition hdb fun _ => hdb.addEntity ho) d
  | removeEntity d name => exact h.removeEntity d name
  | changeEntity d i c => exact h.changeDatabase (fun db hdb => hdb.changeEntityAt i c) d
  | changeLoose i c => exact h.changeLoose (fun e he => he.change c) i
  | renameLoose i name => exact h.changeLoose (fun e he => .ofDone (he.setName name)) i

theorem InOrder.run (h : w.InOrder) (changes : List HoldingsChange) : (w.run changes).InOrder := by
  unfold Holdings.run
  induction changes generalizing w with
  | nil => exact h
  | cons c rest ih => exact ih (h.change c).kept

theorem ownership_of_run (hw : w.Blank) (changes : List HoldingsChange) (next : HoldingsChange) :
    (w.run changes).InOrder ∧ Outcome.Proper InOrder (w.run changes) ((w.run changes).change next) := by
  have h := hw.inOrder.run changes
  exact ⟨h, h.change next⟩

def relocation : List HoldingsChange :=
  [.changeLoose 0 (.addField { name := "id", domain := .ofType .integer }),
    .changeLoose 0 (.addField { name := "title", domain := .ofType .varchar }),
    .changeLoose 0 (.addIndex (.ofNames ["title"])), .changeLoose 0 (.addRelation { foreignEntity := "author" }),
    .renameLoose 0 "volume", .addEntity 0 0, .changeEntity 0 0 (.removeField "id"), .addEntity 0 0,
    .removeEntity 0 "volume", .changeLoose 1 (.setTable (some "volumes")), .addEntity 1 1,
    .renameDatabase 1 "vault"]

theorem ownership_of_run_relocation :
    let w : Holdings := ⟨[{ name := "library" }, { name := "archive" }], [{ name := "book" }]⟩
    ((w.run relocation).databases.map fun db => (db.name, db.entities.map fun e => (e.name, e.database))) =
        [("library", []), ("vault", [("volume", some "vault")])] ∧
      ((w.run relocation).databases.flatMap (·.entities) |>.map fun e =>
        (e.fields.map fun f => (f.name, f.position), e.indices.map (·.table))) =
        [([("title", 1)], [some "volumes"])] ∧
      (w.run relocation).InOrder ∧
      Outcome.Proper InOrder (w.run relocation) ((w.run relocation).change (.removeEntity 1 "volume")) := by
  intro w
  have hw : w.Blank := ⟨by decide, by decide⟩
  exact ⟨by decide +kernel, by decide +kernel, ownership_of_run hw relocation (.removeEntity 1 "volume")⟩

end Holdings

end Tablecraft
