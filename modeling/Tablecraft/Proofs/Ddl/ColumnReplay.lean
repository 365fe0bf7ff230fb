import Mathlib.Data.Finset.Basic
import Mathlib.Data.Finset.Dedup
import Mathlib.Data.Finset.Lattice.Lemmas
import Mathlib.Data.Finset.SDiff
import Tablecraft.Proofs.Ddl.Columns
import Tablecraft.Proofs.Ddl.MigrationShape

namespace Tablecraft

inductive ColumnStep
  | use (column : String)
  | rename (source target : String)
  | add (column : String)
  | drop (column : String)
  | clear
  deriving DecidableEq, Repr

namespace ColumnStep

def run (columns : Finset String) : ColumnStep → Option (Finset String)
  | use c => if c ∈ columns then some columns else none
  | rename a b =>
    if a ∈ columns ∧ b ∉ columns.erase a then some (insert b (columns.erase a)) else none
  | add c => if c ∈ columns then none else some (insert c columns)
  | drop c => if c ∈ columns then some (columns.erase c) else none
  | clear => some ∅

def runAll (steps : List ColumnStep) (columns : Finset String) : Option (Finset String) :=
  steps.foldlM run columns

variable {columns result : Finset String} {steps rest rest' : List ColumnStep} {names : List String}
  {moves : List (String × String)}

theorem runAll_cons (step : ColumnStep) :
    runAll (step :: steps) columns = (run columns step).bind (runAll steps) := rfl

theorem runAll_append :
    runAll (steps ++ rest) columns = (runAll steps columns).bind (runAll rest) := by
  rw [runAll, List.foldlM_append]
  rfl

theorem runAll_append_congr (h : ∀ s, runAll steps columns = some s → runAll rest s = runAll rest' s) :
    runAll (steps ++ rest) columns = runAll (steps ++ rest') columns := by
  rw [runAll_append, runAll_append]
  cases hs : runAll steps columns with
  | none => rfl
  | some s => exact h s hs

theorem run_use {c : String} (hc : c ∈ columns) : run columns (use c) = some columns := if_pos hc

theorem run_rename_self {c : String} (hc : c ∈ columns) : run columns (rename c c) = some columns := by
  simp [run, hc]

theorem runAll_stays (h : ∀ step ∈ steps, run columns step = some columns) :
    runAll steps columns = some columns := by
  induction steps with
  | nil => rfl
  | cons step rest ih =>
      obtain ⟨hstep, hrest⟩ := List.forall_mem_cons.1 h
      rw [runAll_cons, hstep]
      exact ih hrest

theorem eq_of_runAll_uses (hu : ∀ step ∈ steps, ∃ c, step = use c) (h : runAll steps columns = some result) :
    result = columns := by
  induction steps with
  | nil => exact (Option.some.inj h).symm
  | cons step rest ih =>
      obtain ⟨⟨c, rfl⟩, hrest⟩ := List.forall_mem_cons.1 hu
      rw [runAll_cons, run] at h
      split at h
      · exact ih hrest h
      · cases h

theorem runAll_adds_iff : runAll (names.map add) columns = some result ↔
    names.Nodup ∧ (∀ c ∈ names, c ∉ columns) ∧ columns ∪ names.toFinset = result := by
  induction names generalizing columns with
  | nil => simp [runAll]
  | cons c rest ih =>
      rw [List.map_cons, runAll_cons, run]
      by_cases hc : c ∈ columns
      · simp [hc]
      · rw [if_neg hc, Option.bind_some, ih]
        have he : insert c columns ∪ rest.toFinset = columns ∪ (c :: rest).toFinset := by
          ext
          simp
        rw [he, List.nodup_cons, List.forall_mem_cons]
        simp only [Finset.mem_insert, not_or]
        constructor
        · rintro ⟨hn, hr, hs⟩
          exact ⟨⟨fun hm => (hr c hm).1 rfl, hn⟩, ⟨hc, fun x hx => (hr x hx).2⟩, hs⟩
        · rintro ⟨⟨hm, hn⟩, ⟨_, hr⟩, hs⟩
          exact ⟨hn, fun x hx => ⟨fun h => hm (h ▸ hx), hr x hx⟩, hs⟩

theorem runAll_drops (hn : names.Nodup) (hc : ∀ c ∈ names, c ∈ columns) :
    runAll (names.map drop) columns = some (columns \ names.toFinset) := by
  induction names generalizing columns with
  | nil => simp [runAll]
  | cons c rest ih =>
      obtain ⟨hm, hn⟩ := List.nodup_cons.1 hn
      obtain ⟨hcc, hrest⟩ := List.forall_mem_cons.1 hc
      have he : columns.erase c \ rest.toFinset = columns \ (c :: rest).toFinset := by
        ext
        simp only [Finset.mem_sdiff, Finset.mem_erase, List.toFinset_cons, Finset.mem_insert, List.mem_toFinset]
        tauto
      rw [List.map_cons, runAll_cons, run, if_pos hcc, Option.bind_some,
        ih hn fun x hx => Finset.mem_erase.2 ⟨ne_of_mem_of_not_mem hx hm, hrest x hx⟩, he]

def ofMove (move : String × String) : ColumnStep := rename move.1 move.2

def relocate (moves : List (String × String)) (columns : Finset String) : Finset String :=
  columns \ (moves.map Prod.fst).toFinset ∪ (moves.map Prod.snd).toFinset

@[simp] theorem mem_relocate {x : String} : x ∈ relocate moves columns ↔
    (x ∈ columns ∧ x ∉ moves.map Prod.fst) ∨ x ∈ moves.map Prod.snd := by
  simp [relocate]

/-- A new name that is taken belongs to a column that moves itself. -/
def Vacated (moves : List (String × String)) (columns : Finset String) : Prop :=
  ∀ m ∈ moves, m.2 ∈ columns → m.2 ∈ moves.map Prod.fst

section

variable {a b : String} {rest : List (String × String)}

theorem relocate_cons (hb : b ∉ rest.map Prod.fst) :
    relocate rest (insert b (columns.erase a)) = relocate ((a, b) :: rest) columns := by
  ext x
  simp only [mem_relocate, Finset.mem_insert, Finset.mem_erase, List.map_cons, List.mem_cons, not_or]
  by_cases hx : x = b
  · simp [hx, hb]
  · tauto

theorem vacated_cons_iff (hfree : b ∉ columns.erase a) (hb : b ∉ rest.map Prod.snd) :
    Vacated ((a, b) :: rest) columns ↔ Vacated rest (insert b (columns.erase a)) := by
  rw [Finset.mem_erase, not_and, not_imp_not] at hfree
  constructor
  · intro h n hn hnc
    rcases Finset.mem_insert.1 hnc with hnb | hnc
    · exact absurd (List.mem_map.2 ⟨n, hn, hnb⟩) hb
    · obtain ⟨hna, hnc⟩ := Finset.mem_erase.1 hnc
      exact (List.mem_cons.1 (h n (List.mem_cons_of_mem _ hn) hnc)).resolve_left hna
  · intro h
    refine List.forall_mem_cons.2 ⟨fun hbc => ?_, fun n hn hnc => ?_⟩
    · simp [hfree hbc]
    · by_cases hna : n.2 = a
      · simp [hna]
      · exact List.mem_cons_of_mem _ (h n hn (Finset.mem_insert_of_mem (Finset.mem_erase.2 ⟨hna, hnc⟩)))

/-- A name that is taken is free neither now nor later, so one of the two conditions on moves fails. -/
theorem not_vacated_of_taken (hfree : b ∈ columns.erase a) (hpairs : ∀ n ∈ rest, b ≠ n.1) :
    ¬Vacated ((a, b) :: rest) columns := by
  obtain ⟨hba, hbc⟩ := Finset.mem_erase.1 hfree
  intro h
  rcases List.mem_cons.1 (h (a, b) List.mem_cons_self hbc) with hb | hb
  · exact hba hb
  · obtain ⟨n, hn, hnb⟩ := List.mem_map.1 hb
    exact hpairs n hn hnb.symm

end

/-- A move waits for no column, and columns move in order: each needs its new name to be free, or to
be one that has moved away before. -/
theorem runAll_moves_iff (hs : (moves.map Prod.fst).Nodup) (ht : (moves.map Prod.snd).Nodup)
    (hc : ∀ m ∈ moves, m.1 ∈ columns) : runAll (moves.map ofMove) columns = some result ↔
      Vacated moves columns ∧ (moves.Pairwise fun m n => m.2 ≠ n.1) ∧ relocate moves columns = result := by
  induction moves generalizing columns with
  | nil => simp [runAll, Vacated, relocate]
  | cons m rest ih =>
      obtain ⟨a, b⟩ := m
      obtain ⟨ha, hs⟩ := List.nodup_cons.1 hs
      obtain ⟨hb, ht⟩ := List.nodup_cons.1 ht
      obtain ⟨hac, hrest⟩ := List.forall_mem_cons.1 hc
      rw [List.map_cons, runAll_cons, ofMove, run, List.pairwise_cons]
      by_cases hfree : b ∈ columns.erase a
      · rw [if_neg fun h => h.2 hfree]
        exact iff_of_false (by simp) fun h => not_vacated_of_taken hfree h.2.1.1 h.1
      · have hstill : ∀ n ∈ rest, n.1 ∈ columns.erase a := fun n hn =>
          Finset.mem_erase.2 ⟨ne_of_mem_of_not_mem (List.mem_map_of_mem (f := Prod.fst) hn) ha, hrest n hn⟩
        have hlater : ∀ n ∈ rest, b ≠ n.1 := fun n hn h => hfree (h ▸ hstill n hn)
        have hbr : b ∉ rest.map Prod.fst := fun h => by
          obtain ⟨n, hn, hnb⟩ := List.mem_map.1 h
          exact hlater n hn hnb.symm
        rw [if_pos ⟨hac, hfree⟩, Option.bind_some, ih hs ht fun n hn => Finset.mem_insert_of_mem (hstill n hn),
          relocate_cons hbr, vacated_cons_iff hfree hb]
        simp only [and_iff_right hlater]

def insertion (column : Option String × String) : List ColumnStep :=
  (column.1.map use).toList ++ [add column.2]

theorem runAll_insertions {columns : Finset String} {inserted : List (Option String × String)}
    (h : ∀ before c after, inserted = before ++ c :: after →
      ∀ previous ∈ c.1, previous ∈ columns ∨ previous ∈ before.map Prod.snd) :
    runAll (inserted.flatMap insertion) columns = runAll (inserted.map fun c => add c.2) columns := by
  induction inserted generalizing columns with
  | nil => rfl
  | cons c rest ih =>
      have hused : runAll (c.1.map use).toList columns = some columns := by
        refine runAll_stays fun step hstep => ?_
        obtain ⟨previous, hp, rfl⟩ := Option.map_eq_some_iff.1 (Option.mem_toList.1 hstep)
        exact run_use ((h [] c rest rfl previous hp).resolve_right (by simp))
      rw [List.flatMap_cons, insertion, List.append_assoc, runAll_append, hused, Option.bind_some,
        List.singleton_append, List.map_cons, runAll_cons, runAll_cons, run]
      by_cases hc : c.2 ∈ columns
      · simp [hc]
      · rw [if_neg hc, Option.bind_some, Option.bind_some]
        refine ih fun before d after hd previous hp => ?_
        rcases h (c :: before) d after (by rw [hd, List.cons_append]) previous hp with hin | hin
        · exact .inl (Finset.mem_insert_of_mem hin)
        · rcases List.mem_cons.1 hin with rfl | hin
          · exact .inl (Finset.mem_insert_self _ _)
          · exact .inr hin

end ColumnStep

structure ColumnPlan (source target : Finset String) (moves : List (String × String))
    (added removed : List String) : Prop where
  sources : (moves.map Prod.fst ++ removed).Nodup
  targets : (moves.map Prod.snd ++ added).Nodup
  sources_subset : ∀ c ∈ moves.map Prod.fst ++ removed, c ∈ source
  targets_subset : ∀ c ∈ moves.map Prod.snd ++ added, c ∈ target
  kept : ∀ c, (c ∈ source ∧ c ∉ moves.map Prod.fst ++ removed) ↔
    (c ∈ target ∧ c ∉ moves.map Prod.snd ++ added)

namespace ColumnPlan

open ColumnStep

variable {source target result : Finset String} {moves : List (String × String)} {added removed : List String}

def steps (moves : List (String × String)) (added removed : List String) : List ColumnStep :=
  moves.map ofMove ++ added.map add ++ removed.map drop

section

variable (h : ColumnPlan source target moves added removed)

include h

theorem mem_of_moves : ∀ m ∈ moves, m.1 ∈ source := fun _ hm =>
  h.sources_subset _ (List.mem_append_left _ (List.mem_map_of_mem hm))

theorem mem_relocate_of_removed : ∀ c ∈ removed, c ∈ relocate moves source := fun c hc =>
  mem_relocate.2 (.inl ⟨h.sources_subset c (List.mem_append_right _ hc), fun hm =>
    (List.nodup_append.1 h.sources).2.2 c hm c hc rfl⟩)

theorem runAll_removed : runAll (removed.map drop) (relocate moves source ∪ added.toFinset) =
    some ((relocate moves source ∪ added.toFinset) \ removed.toFinset) :=
  runAll_drops (List.nodup_append.1 h.sources).2.1 fun c hc =>
    Finset.mem_union_left _ (h.mem_relocate_of_removed c hc)

/-- Names that were free when their turn came are not the names of columns that go. -/
theorem removed_free (hmoved : Vacated moves source) (hfresh : ∀ c ∈ added, c ∉ relocate moves source) :
    ∀ c ∈ removed, c ∉ target := by
  intro c hc hct
  by_cases hnew : c ∈ moves.map Prod.snd ++ added
  · rcases List.mem_append.1 hnew with hm | hm
    · obtain ⟨m, hmm, rfl⟩ := List.mem_map.1 hm
      have hsource := hmoved m hmm (h.sources_subset _ (List.mem_append_right _ hc))
      exact (List.nodup_append.1 h.sources).2.2 _ hsource _ hc rfl
    · exact hfresh c hm (h.mem_relocate_of_removed c hc)
  · exact ((h.kept c).2 ⟨hct, hnew⟩).2 (List.mem_append_right _ hc)

variable (hfree : ∀ c ∈ removed, c ∉ target)

include hfree

/-- A column of the source under a name of the target's either moves or is the same in both. -/
theorem mem_moves_of_mem {c : String} (hs : c ∈ source) (ht : c ∈ moves.map Prod.snd ++ added) :
    c ∈ moves.map Prod.fst := by
  by_contra hout
  have hremoved : c ∉ removed := fun hc => hfree c hc (h.targets_subset c ht)
  exact ((h.kept c).1 ⟨hs, by simp [hout, hremoved]⟩).2 ht

theorem vacated : Vacated moves source := fun _ hm hs =>
  h.mem_moves_of_mem hfree hs (List.mem_append_left _ (List.mem_map_of_mem hm))

theorem added_fresh : ∀ c ∈ added, c ∉ relocate moves source := by
  intro c hc hin
  rcases mem_relocate.1 hin with ⟨hs, hout⟩ | hm
  · exact hout (h.mem_moves_of_mem hfree hs (List.mem_append_right _ hc))
  · exact (List.nodup_append.1 h.targets).2.2 c hm c hc rfl

theorem reached : (relocate moves source ∪ added.toFinset) \ removed.toFinset = target := by
  ext x
  have hk := h.kept x
  have hx := h.targets_subset x
  have hf := hfree x
  simp only [List.mem_append] at hk hx
  simp only [Finset.mem_sdiff, Finset.mem_union, mem_relocate, List.mem_toFinset]
  tauto

end

/-- Moves, then additions, then removals reach the target exactly if no column of the target goes by
the name of one that is removed, and none takes the name of one that moves later. -/
theorem runAll_steps_iff (h : ColumnPlan source target moves added removed) :
    runAll (steps moves added removed) source = some result ↔
      (∀ c ∈ removed, c ∉ target) ∧ (moves.Pairwise fun m n => m.2 ≠ n.1) ∧ target = result := by
  obtain ⟨hs, _, _⟩ := List.nodup_append.1 h.sources
  obtain ⟨ht, ha, _⟩ := List.nodup_append.1 h.targets
  constructor
  · intro hrun
    obtain ⟨s, hrun, hdone⟩ := Option.bind_eq_some_iff.1 (runAll_append.symm.trans hrun)
    obtain ⟨t, hrun, hadds⟩ := Option.bind_eq_some_iff.1 (runAll_append.symm.trans hrun)
    obtain ⟨hmoved, hpairs, rfl⟩ := (runAll_moves_iff hs ht h.mem_of_moves).1 hrun
    obtain ⟨_, hfresh, rfl⟩ := runAll_adds_iff.1 hadds
    have hfree := h.removed_free hmoved hfresh
    rw [h.runAll_removed, h.reached hfree] at hdone
    exact ⟨hfree, hpairs, Option.some.inj hdone⟩
  · rintro ⟨hfree, hpairs, rfl⟩
    have hmoves := (runAll_moves_iff hs ht h.mem_of_moves).2 ⟨h.vacated hfree, hpairs, rfl⟩
    have hadds := runAll_adds_iff.2 ⟨ha, h.added_fresh hfree, rfl⟩
    rw [steps, runAll_append, runAll_append, hmoves, Option.bind_some, hadds, Option.bind_some, h.runAll_removed,
      h.reached hfree]

end ColumnPlan

def AlterClause.columnSteps : AlterClause → List ColumnStep
  | .change column clause => [.rename column clause.name]
  | .add clause (.after previous) => ColumnStep.insertion (some previous, clause.name)
  | .add clause _ => ColumnStep.insertion (none, clause.name)
  | .drop column => [.drop column]
  | .dropPrimaryKey | .addPrimaryKey _ => []

def Statement.columnSteps : Statement → List ColumnStep
  | .createTable definition => definition.columnNames.map .add
  | .dropTable _ => [.clear]
  | .describeColumn _ column _ => [.use column]
  | .renameColumn _ source target => [.rename source target]
  | .modifyColumns _ clauses => clauses.map fun clause => .use clause.name
  | .addColumns _ clauses => clauses.map fun clause => .add clause.name
  | .addColumn _ clause => [.add clause.name]
  | .alterColumn _ column _ => [.use column]
  | .alterOnce _ clause => clause.columnSteps
  | .alterTable _ clauses => clauses.flatMap AlterClause.columnSteps
  | .dropColumn _ column => [.drop column]
  | .saveRows _ columns _ => columns.map .use ++ [.clear]
  | .restoreRows _ columns _ => columns.map fun pair => .use pair.2
  | _ => []

/-- The columns that the table has after the script, if every statement finds what it needs. -/
def Script.replay (script : Script) (columns : Finset String) : Option (Finset String) :=
  ColumnStep.runAll (script.flatMap Statement.columnSteps) columns

end Tablecraft
