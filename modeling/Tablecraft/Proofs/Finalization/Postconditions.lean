import Tablecraft.Proofs.Finalization.Frame
import Tablecraft.Proofs.Finalization.Idempotence
import Tablecraft.Proofs.Finalization.KeyIndices

namespace Tablecraft

open List Edit

variable {p : Platform} {db db' : Database} {e : Entity} {name : String} {names key : List String}

theorem Entity.isUniqueOn_singleton_iff :
    e.isUniqueOn [name] = true ↔ e.primaryKeyNames = [name] ∨ ∃ u ∈ e.uniques, u.memberNames = [name] := by
  simp only [isUniqueOn, Bool.or_eq_true, List.any_eq_true, Finalization.sameMembers_singleton_iff]

theorem Entity.hasAutoIncrement_iff : e.hasAutoIncrement = true ↔ ∃ f ∈ e.fields, f.autoIncrement = true := by
  rw [hasAutoIncrement, autoIncrementField?, List.find?_isSome]

theorem Finalization.mem_properSuffixes_iff :
    names ∈ properSuffixes key ↔ names <:+ key ∧ names ≠ [] ∧ names ≠ key := by
  simp only [properSuffixes, List.mem_map, List.mem_range]
  constructor
  · rintro ⟨i, hi, rfl⟩
    have hlength : (key.drop (i + 1)).length = key.length - (i + 1) := List.length_drop
    refine ⟨List.drop_suffix _ _, ?_, ?_⟩
    · exact List.length_pos_iff_ne_nil.1 (by omega)
    · intro heq
      rw [heq] at hlength
      omega
  · rintro ⟨hsuffix, hne, hproper⟩
    have hpos := List.length_pos_iff_ne_nil.2 hne
    have hle := hsuffix.length_le
    have hlt : names.length ≠ key.length := fun h => hproper (hsuffix.eq_of_length h)
    refine ⟨key.length - names.length - 1, by omega, ?_⟩
    rw [show key.length - names.length - 1 + 1 = key.length - names.length by omega]
    exact (List.suffix_iff_eq_drop.1 hsuffix).symm

/-- The entity is ready for rendering, in a database with this switch for heavy indexing: each unique field
has a constraint of its own, where indexing is heavy something starts with each proper end of the key, and
the database generates keys only where a field counts up. -/
structure Entity.Finished (heavy : Bool) (e : Entity) : Prop where
  uniques : ∀ f ∈ e.fields, f.unique = true →
    e.primaryKeyNames = [f.name] ∨ ∃ u ∈ e.uniques, u.memberNames = [f.name]
  suffixes : e.heavyIndexing.getD heavy = true →
    ∀ names, names <:+ e.primaryKeyNames → names ≠ [] → names ≠ e.primaryKeyNames →
      names <+: e.primaryKeyNames ∨ ∃ i ∈ e.allIndices, names <+: i.memberNames
  idMethod : e.idMethod = .native → ∃ f ∈ e.fields, f.autoIncrement = true

theorem Entity.Constrained.finished {limit : Nat} {heavy : Bool} (h : e.Constrained limit heavy) :
    e.Finished heavy where
  uniques f hf hu := isUniqueOn_singleton_iff.1 (h.uniques f hf hu)
  suffixes hheavy names hsuffix hne hproper :=
    (isIndexed_iff.1 (h.suffixes hheavy names (Finalization.mem_properSuffixes_iff.2 ⟨hsuffix, hne, hproper⟩))).2
  idMethod hn := hasAutoIncrement_iff.1 (h.idMethod hn)

/-- Every entity of a loaded database is finished when finalization ends, by the settings it was loaded with.
-/
theorem finished_of_finalize {doc : SchemaDocument} (hl : LoadedFrom .builtins doc db)
    (h : (Database.finalize .builtins p).result db = .ok db') :
    db'.heavyIndexing = db.heavyIndexing ∧
      db'.entities.map (fun e => (e.name, e.heavyIndexing)) =
        db.entities.map (fun e => (e.name, e.heavyIndexing)) ∧
      ∀ e ∈ db'.entities, e.Finished db'.heavyIndexing := by
  obtain ⟨hheavy, hconstrained⟩ :=
    Database.constrained_of_finalize Registry.additive_builtins hl.fresh.addressed h
  have hcompleted := Database.Mild.completed db.benign_builtins.mild h
  refine ⟨hheavy, ?_, fun e he => ?_⟩
  · exact FirstMatch.map_eq_of_forall₂ hcompleted.entities fun e e' hx => by rw [hx.frame]
  · rw [hheavy]
    exact (hconstrained e he).finished

def loanDocument : SchemaDocument :=
  { databases := [
      { name := "library"
        heavyIndexing := true
        entities := [
          { name := "copy"
            fields := [{ name := "id", fieldType := some "INTEGER", primaryKey := true, autoIncrement := true },
              { name := "barcode", fieldType := some "VARCHAR", unique := true }]
            uniques := [{ fields := [{ name := "barcode" }] }] },
          { name := "loan"
            fields := [{ name := "copy", fieldType := some "INTEGER", primaryKey := true },
              { name := "reader", fieldType := some "INTEGER", primaryKey := true },
              { name := "day", fieldType := some "DATE", primaryKey := true },
              { name := "receipt", fieldType := some "INTEGER", unique := true }]
            indices := [{ fields := [{ name := "day" }, { name := "reader" }] }]
            relations := [{ foreignEntity := "copy", references := [("copy", "id")] },
              { foreignEntity := "loan", field := some "renewal" }]
            behaviors := [{ name := "timestampable" }] }] }] }

theorem finished_of_finalize_loan : ∃ db db', LoadedFrom .builtins loanDocument db ∧
    (Database.finalize .builtins { dialect := .mysql, settings := { tableType := "MyISAM" } }).result db =
      .ok db' ∧
    db'.heavyIndexing = true ∧ (∀ e ∈ db'.entities, e.Finished db'.heavyIndexing) ∧
    ∃ e ∈ db'.entities, e.primaryKeyNames = ["copy", "reader", "day"] ∧
      e.indices.map (·.memberNames) =
        [["day", "reader"], ["reader", "day"], ["renewalCopy", "renewalReader", "renewalDay"]] ∧
      e.uniques.map (·.memberNames) = [["receipt"]] ∧ e.idMethod = .none := by
  obtain ⟨db, db', hd, h, hheavy, he⟩ := Database.exists_finalize_of_decide
    { dialect := .mysql, settings := { tableType := "MyISAM" } } loanDocument.first?
    (fun db db' => db.heavyIndexing = true ∧
      ∃ e ∈ db'.entities, e.primaryKeyNames = ["copy", "reader", "day"] ∧
        e.indices.map (·.memberNames) =
          [["day", "reader"], ["reader", "day"], ["renewalCopy", "renewalReader", "renewalDay"]] ∧
        e.uniques.map (·.memberNames) = [["receipt"]] ∧ e.idMethod = .none) (by decide +kernel)
  have hl := SchemaDocument.loadedFrom_of_first? hd
  obtain ⟨hswitch, -, hfinished⟩ := finished_of_finalize hl h
  exact ⟨db, db', hl, h, hswitch.trans hheavy, hfinished, he⟩

end Tablecraft
