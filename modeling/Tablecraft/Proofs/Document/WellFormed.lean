import Mathlib.Tactic.MkIffOfInductiveProp
import Tablecraft.Document.Building

namespace Tablecraft

def FieldType.Known (text : String) : Prop :=
  Text.upper (Text.trim text) ∈ synonyms.map Prod.fst ∨ ∃ t : FieldType, t.name = Text.upper (Text.trim text)

def IdMethod.Known (text : String) : Prop := ∃ m : IdMethod, m.name = Text.lower text

def Dialect.Known (text : String) : Prop := ∃ d : Dialect, Text.lower (Text.trim text) ∈ d.aliases

def RelationAction.Known (text : String) : Prop :=
  Text.without (fun c => c = '_' || c = ' ') (Text.upper (Text.trim text)) ∈
    ["", "NONE", "CASCADE", "RESTRICT", "SETNULL", "SETDEFAULT", "NOACTION"]

def Registry.AllowsMultiple (registry : Registry) (name : String) : Prop :=
  ∃ effect, registry.get? (Text.lower name) = some effect ∧ effect.repeatable = true

namespace Document

def Behavior.effectiveId (b : Behavior) : String := b.id.getD b.name

/-- The behaviors of one owner are registered, and where an identifier comes again, the later behavior
allows that. -/
@[mk_iff] structure Behavior.Admitted (registry : Registry) (behaviors : List Behavior) : Prop where
  known : ∀ b ∈ behaviors, registry.knows b.name = true
  repeated : behaviors.Pairwise fun earlier later =>
    earlier.effectiveId = later.effectiveId → registry.AllowsMultiple later.name

@[mk_iff] structure Field.WellFormed (domains : List String) (f : Field) : Prop where
  domain : ∀ name ∈ f.domain, name ∈ domains
  typed : f.domain = none → f.fieldType.isSome = true
  fieldType : ∀ t ∈ f.fieldType, FieldType.Known t

@[mk_iff] structure Relation.WellFormed (r : Relation) : Prop where
  onDelete : ∀ action ∈ r.onDelete, RelationAction.Known action
  onUpdate : ∀ action ∈ r.onUpdate, RelationAction.Known action

namespace Entity

def tableName (d : Entity) : String := d.table.getD d.name

def keys (d : Entity) : List (Bool × Index) := d.indices.map (false, ·) ++ d.uniques.map (true, ·)

def keyName (d : Entity) (key : Bool × Index) : String :=
  key.2.name.getD (Naming.hashedName (some d.tableName) (if key.1 then "u_" else "i_")
    (key.2.fields.flatMap fun m => [m.name, (m.size.map Text.ofNat).getD ""]) Naming.defaultLimit)

@[mk_iff] structure WellFormed (registry : Registry) (domains : List String) (d : Entity) : Prop where
  idMethod : ∀ m ∈ d.idMethod, IdMethod.Known m
  fields : ∀ f ∈ d.fields, f.WellFormed domains
  fieldNames : (d.fields.map (·.name)).Nodup
  inheritance : d.fields.Pairwise fun f g => f.inheritance = [] ∨ g.inheritance = []
  members : ∀ key ∈ d.keys, key.2.fields ≠ [] ∧ ∀ m ∈ key.2.fields, m.name ∈ d.fields.map (·.name)
  keyNames : (d.keys.map d.keyName).Nodup
  relations : ∀ r ∈ d.relations, r.WellFormed
  behaviors : Behavior.Admitted registry d.behaviors

end Entity

namespace Database

/-- The name by which the entity is qualified: with its namespace, or with that of the database. -/
def qualifiedName (d : Database) (e : Entity) : String := Entity.qualify (e.space <|> d.space) e.name

@[mk_iff] structure WellFormed (registry : Registry) (d : Database) : Prop where
  platform : ∀ x ∈ d.platform, Dialect.Known x
  idMethod : ∀ m ∈ d.defaultIdMethod, IdMethod.Known m
  domains : ∀ x ∈ d.domains, FieldType.Known x.fieldType
  behaviors : Behavior.Admitted registry d.behaviors
  entities : ∀ e ∈ d.entities, e.WellFormed registry (d.domains.map (·.name))
  entityNames : d.entities.Pairwise fun earlier later =>
    later.name ≠ earlier.name ∧ later.name ≠ d.qualifiedName earlier

end Database

end Document

inductive SchemaDocument.WellFormed (registry : Registry) : SchemaDocument → Prop
  | intro {name : Option String} {databases : List Document.Database} {externals : List SchemaDocument} :
      (∀ d ∈ databases, d.WellFormed registry) → (databases.map (·.name)).Nodup →
      (∀ doc ∈ externals, WellFormed registry doc) → WellFormed registry ⟨name, databases, externals⟩

section

variable {text : String}

theorem FieldType.exists_read_iff : (∃ t, read text = .ok t) ↔ Known text := by
  unfold read Known
  dsimp only
  generalize Text.upper (Text.trim text) = upper
  have hshort : (synonyms.lookup upper).isSome = true ↔ upper ∈ synonyms.map Prod.fst := by
    rw [List.lookup_isSome_iff, List.mem_map]
    exact exists_congr fun p => and_congr_right fun _ => beq_iff_eq.trans eq_comm
  have hall : (all.find? (·.name == upper)).isSome = true ↔ ∃ t : FieldType, t.name = upper := by
    simp [List.find?_isSome, mem_all]
  rw [← hshort, ← hall]
  cases synonyms.lookup upper <;> cases all.find? (·.name == upper) <;> simp

theorem IdMethod.exists_read_iff : (∃ m, read text = .ok m) ↔ Known text := by
  unfold read Known
  dsimp only
  generalize Text.lower text = lower
  constructor
  · intro h
    by_cases hnative : lower = "native"
    · exact ⟨native, hnative.symm⟩
    · by_cases hnone : lower = "none"
      · exact ⟨none, hnone.symm⟩
      · simp [hnative, hnone] at h
  · rintro ⟨m, rfl⟩
    cases m
    · exact ⟨native, rfl⟩
    · exact ⟨none, rfl⟩

theorem Dialect.exists_read_iff : (∃ d, read text = .ok d) ↔ Known text := by
  unfold read Known
  dsimp only
  generalize Text.lower (Text.trim text) = lower
  have hall : (all.find? (·.aliases.contains lower)).isSome = true ↔ ∃ d : Dialect, lower ∈ d.aliases := by
    have hmem (d : Dialect) : d ∈ all := by cases d <;> decide
    simp [List.find?_isSome, hmem]
  rw [← hall]
  cases all.find? (·.aliases.contains lower) <;> simp

theorem RelationAction.exists_read_iff : (∃ a, read text = .ok a) ↔ Known text := by
  unfold read Known
  dsimp only
  generalize Text.without (fun c => c = '_' || c = ' ') (Text.upper (Text.trim text)) = words
  have hwords : (ofWords? words).isSome = true ↔
      words ∈ ["", "NONE", "CASCADE", "RESTRICT", "SETNULL", "SETDEFAULT", "NOACTION"] := by
    unfold ofWords?
    split <;> simp_all
  rw [← hwords]
  cases ofWords? words <;> simp

end

end Tablecraft
