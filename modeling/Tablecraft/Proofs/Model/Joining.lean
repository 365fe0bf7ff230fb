import Mathlib.Data.List.Induction
import Tablecraft.Model.Schema
import Tablecraft.Proofs.EditRuns
import Tablecraft.Proofs.Model.Names

namespace Tablecraft

open List Edit

variable {P : Database → Prop} {Q : Entity → Prop} {db incoming source : Database}
    {dbs own joined : List Database}
  {parent : Option String} {s t : Schema} {externals rest : List Schema} {fault : Fault}

namespace Schema

mutual

def gathered : Schema → List Database
  | ⟨_, databases, externals⟩ => databases ++ gatherAll externals

def gatherAll : List Schema → List Database
  | [] => []
  | s :: rest => s.gathered ++ gatherAll rest

end

def inherited (s : Schema) : List Database := gatherAll s.externals

theorem gathered_eq (s : Schema) : s.gathered = s.databases ++ s.inherited := by
  cases s
  rw [gathered]
  rfl

theorem joinExternals_cons_eq_ok {external : Schema}
    (h : joinExternals parent (external :: externals) own = .ok rest joined) :
    ∃ s u more, external.join = .ok () s ∧ absorbAll parent s.databases own = .ok () u ∧
      joinExternals parent externals u = .ok more joined ∧ rest = { s with databases := [] } :: more := by
  rw [joinExternals] at h
  cases hj : join external with
  | error fault s => simp [hj] at h
  | ok _ s =>
      cases ha : absorbAll parent s.databases own with
      | error fault u => simp [hj, ha] at h
      | ok _ u =>
          cases hr : joinExternals parent externals u with
          | error fault v => simp [hj, ha, hr] at h
          | ok more v =>
              obtain ⟨rfl, rfl⟩ : { s with databases := [] } :: more = rest ∧ v = joined := by
                simpa [hj, ha, hr] using h
              exact ⟨s, u, more, rfl, ha, hr, rfl⟩

theorem join_eq_ok (h : s.join = .ok () t) :
    joinExternals s.name s.externals s.databases = .ok t.externals t.databases ∧ t.name = s.name := by
  cases s
  rw [join] at h
  split at h
  · cases h
  · rename_i hj
    cases h
    exact ⟨hj, rfl⟩

end Schema

structure Database.Welcomes (P : Database → Prop) (Q : Entity → Prop) : Prop where
  entity {db db' : Database} {e : Entity} :
      P db → Q e → db.addEntity { e with database := none } = .ok db' → P db'
  behaviors {db : Database} (behaviors : List Behavior) : P db → P { db with behaviors }

structure Database.Heritable (P : Database → Prop) (Q : Entity → Prop) : Prop extends Database.Welcomes P Q where
  parent {db : Database} (parent : Option String) : P db → P { db with parent }
  entities {db : Database} : P db → ∀ e ∈ db.entities, Q e

namespace Database.Welcomes

open Schema

variable (hw : Database.Welcomes P Q)

include hw

theorem keeps_moveEntities (names : List String) (hs : ∀ e ∈ source.entities, Q e) :
    Keeps P (moveEntities source names) := by
  induction names generalizing source with
  | nil => exact .pure
  | cons name rest ih =>
      intro target ht
      by_cases hn : target.hasEntity name = true
      · simpa [moveEntities, Edit.after, hn] using ht
      · cases hr : source.removeEntity? name with
        | none => simpa [moveEntities, Edit.after, hn, hr] using ih hs target ht
        | some p =>
            obtain ⟨e, others⟩ := p
            obtain ⟨e₀, he₀, rfl, _, hsub⟩ := Database.removeEntity?_eq_some hr
            cases ha : target.addEntity { e₀ with database := none } with
            | error fault => simpa [moveEntities, Edit.after, hn, hr, ha] using ht
            | ok target' =>
                have h := ih (fun x hx => hs x (hsub.subset hx)) target' (hw.entity ht (hs e₀ he₀) ha)
                simpa [moveEntities, Edit.after, hn, hr, ha] using h

theorem addMissingBehaviors (behaviors : List Behavior) {target : Database} (ht : P target) :
    P (addMissingBehaviors behaviors target) := by
  unfold Schema.addMissingBehaviors
  induction behaviors generalizing target with
  | nil => exact ht
  | cons b rest ih =>
      rw [List.foldl_cons]
      split
      · exact ih ht
      · exact ih (hw.behaviors _ ht)

theorem keeps_mergeDatabase (hi : ∀ e ∈ incoming.entities, Q e) : Keeps P (mergeDatabase incoming) := by
  intro target ht
  have hm := hw.keeps_moveEntities incoming.entityNames hi target ht
  cases h : moveEntities incoming incoming.entityNames target with
  | error fault u => simpa [mergeDatabase, Edit.after, h] using hm
  | ok a u =>
      rw [after_of_ok h] at hm
      simpa [mergeDatabase, Edit.after, h] using hw.addMissingBehaviors incoming.behaviors hm

end Database.Welcomes

namespace Database.Heritable

open Schema

variable (hw : Database.Heritable P Q)

include hw

theorem keeps_absorb (hi : P incoming) : Keeps (fun dbs => ∀ db ∈ dbs, P db) (absorb parent incoming) := by
  intro own ho
  by_cases hn : own.any (·.name == incoming.name) = true
  · have h := (hw.keeps_mergeDatabase (hw.entities hi)).first_forall (·.name == incoming.name) own ho
    simpa only [absorb, Edit.after, hn, if_true] using h
  · have h : ∀ db ∈ own ++ [{ incoming with parent }], P db :=
      List.forall_mem_append.2 ⟨ho, List.forall_mem_singleton.2 (hw.parent parent hi)⟩
    simpa only [absorb, Edit.after, hn, if_false, Bool.false_eq_true] using h

theorem keeps_absorbAll (hi : ∀ db ∈ dbs, P db) : Keeps (fun dbs => ∀ db ∈ dbs, P db) (absorbAll parent dbs) := by
  induction dbs with
  | nil => exact .pure
  | cons db rest ih =>
      obtain ⟨hd, hr⟩ := List.forall_mem_cons.1 hi
      exact .bind (hw.keeps_absorb hd) fun _ => ih hr

end Database.Heritable

mutual

theorem Database.Heritable.of_join {s t : Schema} (hw : Database.Heritable P Q) (hs : ∀ db ∈ s.gathered, P db)
    (h : s.join = .ok () t) : ∀ db ∈ t.databases, P db := by
  match s with
  | ⟨name, databases, externals⟩ =>
    rw [Schema.gathered] at hs
    obtain ⟨hown, hx⟩ := List.forall_mem_append.1 hs
    exact hw.of_joinExternals hx hown (Schema.join_eq_ok h).1

theorem Database.Heritable.of_joinExternals {parent : Option String} {externals rest : List Schema}
    {own joined : List Database} (hw : Database.Heritable P Q) (hx : ∀ db ∈ Schema.gatherAll externals, P db)
    (ho : ∀ db ∈ own, P db) (h : Schema.joinExternals parent externals own = .ok rest joined) :
    ∀ db ∈ joined, P db := by
  match externals with
  | [] =>
    cases h
    exact ho
  | external :: others =>
    rw [Schema.gatherAll] at hx
    obtain ⟨he, hothers⟩ := List.forall_mem_append.1 hx
    obtain ⟨s, u, more, hj, ha, hr, -⟩ := Schema.joinExternals_cons_eq_ok h
    exact hw.of_joinExternals hothers ((hw.keeps_absorbAll (hw.of_join he hj)).of_ok ha ho) hr

end

theorem Database.heritable_addressed : Database.Heritable Database.Addressed fun _ => True where
  entity h _ ha := h.addEntity ha
  behaviors _ h := h
  parent _ h := h
  entities _ _ _ := trivial

/-- The property is the entity's own: what a database supplies to an entity that it adopts does not matter. -/
def Entity.Portable (P : Entity → Prop) : Prop :=
  ∀ {e : Entity} (database : Option String) (givenIdMethod : Option IdMethod) (schema space : Option String),
    P e →
    P { e with database, givenIdMethod, schema, space }

theorem Database.heritable_of_portable {P : Entity → Prop} (hP : Entity.Portable P) :
    Database.Heritable (fun db => ∀ e ∈ db.entities, P e) P where
  entity h he ha := Database.forall_addEntity h (hP _ _ _ _ he) ha
  behaviors _ h := h
  parent _ h := h
  entities h := h

namespace Database

/-- What a database keeps when others join it. -/
def header (db : Database) : Database := { db with entities := [], behaviors := [], parent := none }

theorem welcomes_header (header : Database) : Welcomes (fun db => db.header = header) fun _ => True where
  entity h _ ha := by
    obtain ⟨-, rfl⟩ := addEntity_eq_ok ha
    exact h
  behaviors _ h := h

end Database

namespace Schema

def adjoin (own : List Database) (incoming : Database) : List Database :=
  if own.any (·.name == incoming.name) then own else own ++ [incoming]

theorem headers_absorb {own' : List Database} (h : absorb parent incoming own = .ok () own') :
    own'.map (·.header) = adjoin (own.map (·.header)) incoming.header := by
  have hany : (own.map (·.header)).any (·.name == incoming.header.name) = own.any (·.name == incoming.name) := by
    rw [List.any_map]
    rfl
  rw [adjoin, hany]
  unfold absorb at h
  split at h
  · rename_i hn
    have hkeeps (d : Database) : Keeps (fun d' => d'.header = d.header) (mergeDatabase incoming) :=
      (Database.welcomes_header d.header).keeps_mergeDatabase fun _ _ => trivial
    have hrel := (Keeps.first (·.name == incoming.name) hkeeps).of_ok h (forall₂_same.2 fun _ _ => rfl)
    rw [if_pos hn]
    exact FirstMatch.map_eq_of_forall₂ hrel fun _ _ h => h
  · rename_i hn
    cases h
    rw [if_neg hn, List.map_append]
    rfl

theorem headers_absorbAll {own' : List Database} (h : absorbAll parent dbs own = .ok () own') :
    own'.map (·.header) = (dbs.map (·.header)).foldl adjoin (own.map (·.header)) := by
  induction dbs generalizing own with
  | nil =>
      cases h
      rfl
  | cons db rest ih =>
      obtain ⟨_, u, hu, h⟩ := bind_eq_ok_iff.1 h
      rw [ih h, List.map_cons, List.foldl_cons, headers_absorb hu]

theorem any_foldl_adjoin (dbs own : List Database) (name : String) :
    (dbs.foldl adjoin own).any (·.name == name) = (own ++ dbs).any (·.name == name) := by
  induction dbs generalizing own with
  | nil => simp
  | cons db rest ih =>
      rw [List.foldl_cons, ih, adjoin]
      split
      · rename_i h
        by_cases hn : db.name = name
        · subst hn
          simp [h]
        · simp [beq_false_of_ne hn]
      · simp

/-- To adjoin what was gathered elsewhere is to adjoin one after the other. -/
theorem foldl_adjoin_foldl (xs ys own : List Database) :
    (ys.foldl adjoin xs).foldl adjoin own = (xs ++ ys).foldl adjoin own := by
  induction ys using List.reverseRecOn with
  | nil => simp
  | append_singleton ys y ih =>
      have hlast : (xs ++ (ys ++ [y])).foldl adjoin own = adjoin ((ys.foldl adjoin xs).foldl adjoin own) y := by
        rw [← List.append_assoc, List.foldl_append, ← ih]
        rfl
      rw [hlast, List.foldl_append, List.foldl_cons, List.foldl_nil]
      generalize ys.foldl adjoin xs = zs
      by_cases hy : zs.any (·.name == y.name) = true
      · have hown : (zs.foldl adjoin own).any (·.name == y.name) = true := by
          rw [any_foldl_adjoin, List.any_append, hy, Bool.or_true]
        rw [adjoin, if_pos hy, adjoin, if_pos hown]
      · rw [adjoin, if_neg hy, List.foldl_append, List.foldl_cons, List.foldl_nil]

theorem mem_foldl_adjoin :
    db ∈ dbs.foldl adjoin own ↔
      db ∈ own ∨ own.any (·.name == db.name) = false ∧ dbs.find? (·.name == db.name) = some db := by
  induction dbs generalizing own with
  | nil => simp
  | cons d rest ih =>
      rw [List.foldl_cons, ih, adjoin]
      by_cases hn : d.name = db.name
      · rw [List.find?_cons_of_pos (by simpa using hn), hn]
        split
        · rename_i h
          simp [h]
        · rename_i h
          simp [Bool.eq_false_iff.2 h, hn, eq_comm (a := db)]
      · rw [List.find?_cons_of_neg (by simpa using hn)]
        split
        · rfl
        · have hne : db ≠ d := fun h => hn (by rw [h])
          simp [hn, hne]

mutual

theorem headers_join {s t : Schema} (h : s.join = .ok () t) :
    t.databases.map (·.header) = (s.inherited.map (·.header)).foldl adjoin (s.databases.map (·.header)) := by
  match s with
  | ⟨name, databases, externals⟩ => exact headers_joinExternals (join_eq_ok h).1

theorem headers_joinExternals {parent : Option String} {externals rest : List Schema} {own joined : List Database}
    (h : joinExternals parent externals own = .ok rest joined) :
    joined.map (·.header) = ((gatherAll externals).map (·.header)).foldl adjoin (own.map (·.header)) := by
  match externals with
  | [] =>
    cases h
    rfl
  | external :: others =>
    obtain ⟨s, u, more, hj, ha, hr, -⟩ := joinExternals_cons_eq_ok h
    rw [headers_joinExternals hr, headers_absorbAll ha, headers_join hj, foldl_adjoin_foldl,
      gatherAll, gathered_eq]
    simp only [List.map_append, List.foldl_append]

end

/-- A joined database is one of the schema's own, or the first of its name among those of the externals,
apart from what came in. -/
theorem header_of_join (h : s.join = .ok () t) (hdb : db ∈ t.databases) :
    (∃ d ∈ s.databases, db.header = d.header) ∨ (∀ d ∈ s.databases, d.name ≠ db.name) ∧
      ∃ d, s.inherited.find? (·.name == db.name) = some d ∧ db.header = d.header := by
  have hm : db.header ∈ t.databases.map (·.header) := List.mem_map_of_mem hdb
  rw [headers_join h, mem_foldl_adjoin] at hm
  rcases hm with hm | ⟨hnone, hfirst⟩
  · obtain ⟨d, hd, heq⟩ := List.mem_map.1 hm
    exact .inl ⟨d, hd, heq.symm⟩
  · refine .inr ⟨fun d hd hn => ?_, ?_⟩
    · have hall := List.any_eq_false.1 hnone d.header (List.mem_map_of_mem hd)
      exact hall (beq_iff_eq.2 hn)
    · rw [List.find?_map] at hfirst
      obtain ⟨d, hd, heq⟩ := Option.map_eq_some_iff.1 hfirst
      exact ⟨d, hd, heq.symm⟩

inductive Emptied : Schema → Prop
  | intro {name : Option String} {externals : List Schema} : (∀ s ∈ externals, Emptied s) →
      Emptied ⟨name, [], externals⟩

mutual

theorem emptied_of_join {s t : Schema} (h : s.join = .ok () t) : ∀ external ∈ t.externals, external.Emptied := by
  match s with
  | ⟨name, databases, externals⟩ => exact emptied_of_joinExternals (join_eq_ok h).1

theorem emptied_of_joinExternals {parent : Option String} {externals rest : List Schema}
    {own joined : List Database}
    (h : joinExternals parent externals own = .ok rest joined) : ∀ external ∈ rest, external.Emptied := by
  match externals with
  | [] =>
    cases h
    simp
  | external :: others =>
    obtain ⟨s, u, more, hj, -, hr, rfl⟩ := joinExternals_cons_eq_ok h
    exact List.forall_mem_cons.2 ⟨.intro (emptied_of_join hj), emptied_of_joinExternals hr⟩

end

mutual

theorem Emptied.join_eq {s : Schema} (h : s.Emptied) : s.join = .ok () s := by
  match s with
  | ⟨name, databases, externals⟩ =>
    cases h with
    | intro hx => rw [join, joinExternals_of_emptied hx]

theorem joinExternals_of_emptied {parent : Option String} {externals : List Schema} {own : List Database}
    (h : ∀ s ∈ externals, s.Emptied) : joinExternals parent externals own = .ok externals own := by
  match externals with
  | [] => rw [joinExternals]
  | external :: others =>
    obtain ⟨he, ho⟩ := List.forall_mem_cons.1 h
    have hj : external.join = .ok () external := he.join_eq
    have hrest : joinExternals parent others own = .ok others own := joinExternals_of_emptied ho
    have habsorb : absorbAll parent [] own = .ok () own := rfl
    cases he with
    | intro hx => simp [joinExternals, hj, habsorb, hrest]

end

theorem join_of_ok (h : s.join = .ok () t) (databases : List Database) :
    Schema.join { t with databases } = .ok () { t with databases } := by
  rw [join, joinExternals_of_emptied (emptied_of_join h)]

/-- A join that stopped has dropped the externals, so the next one has nothing to do. -/
theorem join_of_error (h : s.join = .error fault t) : t.externals = [] ∧ t.join = .ok () t := by
  cases s
  rw [join] at h
  split at h
  · cases h
    exact ⟨rfl, rfl⟩
  · cases h

end Schema

end Tablecraft
