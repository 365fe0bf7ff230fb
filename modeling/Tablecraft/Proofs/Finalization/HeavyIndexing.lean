import Tablecraft.Config
import Tablecraft.Proofs.Finalization.Idempotence
import Tablecraft.Proofs.Model.Joining

namespace Tablecraft

open List Edit

variable {registry : Registry} {p : Platform} {config : Config} {choose : Database → Except Fault Platform}
  {db db' : Database} {s t : Schema}

/-- Finalization leaves the switch of the database alone, and indexes what it asks for. -/
theorem heavyIndexing_of_finalize (hr : registry.Additive) (ha : db.Addressed)
    (h : Database.finalize registry p db = .ok () db') :
    db'.name = db.name ∧ db'.heavyIndexing = db.heavyIndexing ∧
      ∀ e ∈ db'.entities, e.SuffixesIndexed db'.heavyIndexing := by
  obtain ⟨hheavy, hconstrained⟩ := Database.constrained_of_finalize hr ha (result_eq_ok_iff.2 h)
  obtain ⟨a, u, t, hs⟩ := Database.exists_stages (result_eq_ok_iff.2 h)
  have hext := (Database.keeps_applyBehaviors hr).of_ok hs.applied (.refl db)
  have hx := Finalization.sustains_passes p a
  rw [after_of_ok hs.passes] at hx
  refine ⟨?_, hheavy, fun e he => ?_⟩
  · rw [hx.frame, hext.frame]
  · rw [hheavy]
    exact (hconstrained e he).suffixes

theorem finalizeEach_eq_ok (h : Schema.finalizeEach registry choose s = .ok () t) :
    ∃ joined, s.join = .ok () joined ∧
      Forall₂ (fun db db' => ∃ p, choose db = .ok p ∧ Database.finalize registry p db = .ok () db')
        joined.databases t.databases := by
  unfold Schema.finalizeEach at h
  split at h
  · cases h
  · rename_i joined hj
    refine ⟨joined, hj, ?_⟩
    unfold Edit.within at h
    split at h
    · cases h
    · rename_i databases hd
      cases h
      refine (each_eq_ok hd).imp fun db db' h => ?_
      cases hp : choose db with
      | error fault => simp [hp] at h
      | ok p => exact ⟨p, rfl, by simpa [hp] using h⟩

theorem Config.apply_eq (hc : config.generator.heavyIndexing = true) (s : Schema) :
    config.apply s = { s with databases := s.databases.map fun db => { db with heavyIndexing := true } } := by
  rw [Config.apply, if_pos hc]

theorem addressed_of_apply_join (hc : config.generator.heavyIndexing = true)
    (ha : ∀ db ∈ s.gathered, db.Addressed)
    (hj : (config.apply s).join = .ok () t) : ∀ db ∈ t.databases, db.Addressed := by
  refine Database.heritable_addressed.of_join (fun db hdb => ?_) hj
  rw [Config.apply_eq hc, Schema.gathered_eq] at hdb
  rw [Schema.gathered_eq] at ha
  rcases List.mem_append.1 hdb with hdb | hdb
  · obtain ⟨own, hown, rfl⟩ := List.mem_map.1 hdb
    exact ha own (List.mem_append_left _ hown)
  · exact ha db (List.mem_append_right _ hdb)

theorem heavyIndexing_of_apply_join (hc : config.generator.heavyIndexing = true)
    (hj : (config.apply s).join = .ok () t) (hdb : db ∈ t.databases) :
    db.heavyIndexing = true ↔ db.name ∈ s.databases.map (·.name) ∨
      ∃ first, s.inherited.find? (·.name == db.name) = some first ∧ first.heavyIndexing = true := by
  rw [Config.apply_eq hc] at hj
  have hswitch {d : Database} (heq : db.header = d.header) : db.heavyIndexing = d.heavyIndexing :=
    congrArg (·.heavyIndexing) heq
  rcases Schema.header_of_join hj hdb with ⟨d, hd, heq⟩ | ⟨hother, first, hfirst, heq⟩
  · -- one of the schema's own, which was switched before the join
    obtain ⟨own, hown, rfl⟩ := List.mem_map.1 hd
    have hn : db.name ∈ s.databases.map (·.name) := List.mem_map.2 ⟨own, hown, (congrArg (·.name) heq).symm⟩
    exact iff_of_true (hswitch heq) (.inl hn)
  · -- the first of its name, with the switch that it came with
    have hn : db.name ∉ s.databases.map (·.name) := by
      intro hn
      obtain ⟨own, hown, hname⟩ := List.mem_map.1 hn
      exact hother _ (List.mem_map_of_mem hown) hname
    have hfirst : s.inherited.find? (·.name == db.name) = some first := hfirst
    rw [hswitch heq, hfirst]
    simp [hn]

/-- What is forced on the schema's own databases reaches all that are joined into them, and no others. -/
theorem heavyIndexing_forced (hc : config.generator.heavyIndexing = true) (hr : registry.Additive)
    (ha : ∀ db ∈ s.gathered, db.Addressed)
    (h : (Schema.finalizeEach registry choose).result (config.apply s) = .ok t) :
    ∀ db ∈ t.databases,
      (db.heavyIndexing = true ↔ db.name ∈ s.databases.map (·.name) ∨
        ∃ first, s.inherited.find? (·.name == db.name) = some first ∧ first.heavyIndexing = true) ∧
      ∀ e ∈ db.entities, e.SuffixesIndexed db.heavyIndexing := by
  intro db' hdb'
  obtain ⟨joined, hj, hall⟩ := finalizeEach_eq_ok (result_eq_ok_iff.1 h)
  obtain ⟨db, hdb, p, -, hf⟩ := FirstMatch.exists_of_mem' hall hdb'
  obtain ⟨hname, hheavy, hindexed⟩ := heavyIndexing_of_finalize hr (addressed_of_apply_join hc ha hj db hdb) hf
  refine ⟨?_, hindexed⟩
  rw [hname, hheavy]
  exact heavyIndexing_of_apply_join hc hj hdb

def shelfOf (name : String) : Database where
  name
  entities := [{ name := "shelf", fields := [
    { name := "room", domain := .ofType .integer, primaryKey := true },
    { name := "row", domain := .ofType .integer, primaryKey := true }] }]

def archivedLibrary : Schema where
  databases := [{ name := "library" }]
  externals := [{ databases := [shelfOf "library"], externals := [{ databases := [shelfOf "archive"] }] }]

def heavyConfig : Config := { generator := { heavyIndexing := true } }

theorem heavyIndexing_forced_archivedLibrary : ∃ t,
    (Schema.finalizeEach .builtins (heavyConfig.platformFor none)).result
      (heavyConfig.apply archivedLibrary) = .ok t ∧
      ∀ db ∈ t.databases,
        (db.heavyIndexing = true ↔ db.name ∈ archivedLibrary.databases.map (·.name) ∨
          ∃ first, archivedLibrary.inherited.find? (·.name == db.name) = some first ∧
            first.heavyIndexing = true) ∧
        ∀ e ∈ db.entities, e.SuffixesIndexed db.heavyIndexing := by
  obtain ⟨t, h⟩ : ∃ t, Schema.finalizeEach .builtins (heavyConfig.platformFor none)
    (heavyConfig.apply archivedLibrary) =
      .ok () t := exists_eq_ok (by decide +kernel)
  have h := result_eq_ok_iff.2 h
  have ha : ∀ db ∈ archivedLibrary.gathered, db.Addressed := by
    unfold Database.Addressed
    decide +kernel
  exact ⟨t, h, heavyIndexing_forced rfl Registry.additive_builtins ha h⟩

/-- The archive is not indexed heavily. -/
theorem exists_unreached_database : ∃ t,
    (Schema.finalizeEach .builtins (heavyConfig.platformFor none)).result
      (heavyConfig.apply archivedLibrary) = .ok t ∧
      ∃ db ∈ t.databases, db.heavyIndexing = false ∧ ∃ e ∈ db.entities, e.heavyIndexing = none ∧
        ∃ names ∈ Finalization.properSuffixes e.primaryKeyNames, e.isIndexed names = false := by
  have h : ((Schema.finalizeEach .builtins (heavyConfig.platformFor none)).result
      (heavyConfig.apply archivedLibrary)).toOption.any (fun t => decide (
        ∃ db ∈ t.databases, db.heavyIndexing = false ∧ ∃ e ∈ db.entities, e.heavyIndexing = none ∧
          ∃ names ∈ Finalization.properSuffixes e.primaryKeyNames, e.isIndexed names = false)) = true := by
    decide +kernel
  obtain ⟨t, ht, h⟩ := (Option.any_eq_true _ _).1 h
  exact ⟨t, except_toOption_eq_some_iff.1 ht, of_decide_eq_true h⟩

end Tablecraft
