import Tablecraft.Ddl.Creation
import Tablecraft.Proofs.EditRuns

namespace Tablecraft.Platform

open Edit

variable {p : Platform} {db : Database} {e : Entity} {s : Statement} {created : Script}

theorem mem_opening (h : s ∈ p.opening) : s = .foreignKeyChecks false := by
  unfold opening at h
  split at h
  · exact List.mem_singleton.1 h
  · cases h

theorem mem_closing (h : s ∈ p.closing) : s = .foreignKeyChecks true := by
  unfold closing at h
  split at h
  · exact List.mem_singleton.1 h
  · cases h

theorem mem_dropEntity (h : s ∈ p.dropEntity e) :
    s = .dropTable (p.tableName e) ∨ ∃ name, s = .dropSequence name := by
  rcases List.mem_cons.1 h with h | h
  · exact .inl h
  · obtain ⟨name, _, hn⟩ := Option.map_eq_some_iff.1 (Option.mem_toList.1 h)
    exact .inr ⟨name, hn.symm⟩

theorem mem_addIndices (h : s ∈ p.addIndices e) : ∃ i ∈ e.indices, s = p.addIndex e i := by
  unfold addIndices at h
  split at h
  · cases h
  · obtain ⟨i, hi, rfl⟩ := List.mem_map.1 h
    exact ⟨i, hi, rfl⟩

theorem mem_addForeignKey {r : Relation} (h : s ∈ p.addForeignKey db e r) :
    p.rendersForeignKey e r = true ∧ s = .addForeignKey (p.tableName e) (p.foreignKeyClause db e r) := by
  unfold addForeignKey at h
  split at h
  · exact ⟨‹_›, List.mem_singleton.1 h⟩
  · cases h

theorem mem_dropForeignKey {r : Relation} (h : s ∈ p.dropForeignKey e r) :
    p.rendersForeignKey e r = true ∧ s = .dropForeignKey (p.tableName e) r.name := by
  unfold dropForeignKey at h
  split at h
  · exact ⟨‹_›, List.mem_singleton.1 h⟩
  · cases h

theorem mem_addForeignKeys (h : s ∈ p.addForeignKeys db e) :
    ∃ r ∈ e.relations, p.rendersForeignKey e r = true ∧
      s = .addForeignKey (p.tableName e) (p.foreignKeyClause db e r) := by
  unfold addForeignKeys at h
  split at h
  · cases h
  · obtain ⟨r, hr, hs⟩ := List.mem_flatMap.1 h
    exact ⟨r, hr, mem_addForeignKey hs⟩

theorem mem_describe (h : s ∈ p.describe e) :
    (∃ text, s = .describeTable (p.tableName e) text) ∨
      ∃ column text, s = .describeColumn (p.tableName e) column text := by
  unfold describe at h
  split at h
  · rcases List.mem_append.1 h with h | h
    · obtain ⟨text, _, ht⟩ := Option.map_eq_some_iff.1 (Option.mem_toList.1 h)
      exact .inl ⟨text, ht.symm⟩
    · obtain ⟨f, _, hf⟩ := List.mem_filterMap.1 h
      obtain ⟨text, _, ht⟩ := Option.map_eq_some_iff.1 hf
      exact .inr ⟨f.column, text, ht.symm⟩
  · cases h

/-- The table, after its sequence and before its comments. -/
theorem mem_addEntity (h : p.addEntity db e = .ok created) (hs : s ∈ created) :
    (∃ d, p.tableDefinition db e = .ok d ∧ s = .createTable d) ∨ (∃ name, s = .createSequence name) ∨
      (∃ text, s = .describeTable (p.tableName e) text) ∨
      ∃ column text, s = .describeColumn (p.tableName e) column text := by
  obtain ⟨d, hd, h⟩ := except_bind_eq_ok_iff.1 h
  cases h
  rcases List.mem_append.1 hs with hs | hs
  · obtain ⟨name, _, hn⟩ := Option.map_eq_some_iff.1 (Option.mem_toList.1 hs)
    exact .inr (.inl ⟨name, hn.symm⟩)
  · rcases List.mem_cons.1 hs with hs | hs
    · exact .inl ⟨d, hd, hs⟩
    · exact .inr (.inr (mem_describe hs))

theorem mem_createEntity {s : Statement} {created : Script} (h : p.createEntity db e = .ok created)
    (hs : s ∈ created) : s = .heading e.table ∨ s ∈ p.dropEntity e ∨
      (∃ added, p.addEntity db e = .ok added ∧ s ∈ added) ∨ s ∈ p.addIndices e := by
  obtain ⟨added, ha, h⟩ := except_bind_eq_ok_iff.1 h
  obtain rfl := Except.ok.inj h
  rcases List.mem_append.1 hs with hs | hs
  · rcases List.mem_append.1 hs with hs | hs
    · exact (List.mem_cons.1 hs).imp_right .inl
    · exact .inr (.inr (.inl ⟨added, ha, hs⟩))
  · exact .inr (.inr (.inr hs))

end Tablecraft.Platform
