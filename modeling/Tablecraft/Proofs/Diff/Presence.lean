import Tablecraft.Proofs.Ddl.CreationShape

namespace Tablecraft

open Edit

variable {p : Platform} {source target : Database} {e : Entity} {d : EntityDiff} {name : String}

namespace DatabaseDiff

theorem mem_unknownTo_iff : name ∈ unknownTo source target ↔
    name ∈ target.entitiesForSql.map (·.name) ∧ source.entity? name = none := by
  have hn : source.hasEntity name = false ↔ source.entity? name = none := by simp [Database.hasEntity]
  rw [← hn, unknownTo, List.mem_filter, Bool.not_eq_true']

theorem changesOf?_eq_some_iff : changesOf? source e = some d ↔
    ∃ old, source.entity? e.name = some old ∧ d = EntityDiff.compare old e ∧ d.isEmpty = false := by
  unfold changesOf?
  cases source.entity? e.name with
  | none => simp
  | some old =>
      by_cases hd : (EntityDiff.compare old e).isEmpty = true
      · simp only [hd, if_true, reduceCtorEq, Option.some.injEq, false_iff]
        rintro ⟨_, rfl, rfl, hf⟩
        simp [hd] at hf
      · simp only [hd, Bool.false_eq_true, if_false, Option.some.injEq]
        constructor
        · rintro rfl
          exact ⟨old, rfl, rfl, by simpa using hd⟩
        · rintro ⟨_, rfl, rfl, _⟩
          rfl

theorem mem_modifiedEntities_iff : d ∈ (compare source target).modifiedEntities ↔
    ∃ e ∈ target.entitiesForSql, ∃ old, source.entity? e.name = some old ∧
      d = EntityDiff.compare old e ∧ d.isEmpty = false := by
  simp only [compare, List.mem_filterMap, changesOf?_eq_some_iff]

end DatabaseDiff

end Tablecraft
