import Tablecraft.Proofs.Finalization.Idempotence
import Tablecraft.Proofs.Model.Joining

namespace Tablecraft

open List Edit

variable {registry : Registry} {p : Platform} {db t : Database} {fault : Fault}

theorem Entity.Extends.primaryKeyNames_eq {tables : String → Option String} {e e' : Entity}
    (h : e.Extends tables e') :
    e'.primaryKeyNames = e.primaryKeyNames := by
  refine h.fields.map_filter_eq (fun f g hf => ?_) (fun f hf => hf.ordinary.1) fun _ _ hf => hf.name_eq
  rw [hf]

theorem Database.Extends.regular (h : db.Extends t) (hr : db.Regular) : t.Regular := by
  intro e' he'
  obtain ⟨e, he, hx⟩ := FirstMatch.exists_of_mem' h.entities he'
  have hr := hr e he
  exact ⟨hx.distinct hr.fieldNames, hx.primaryKeyNames_eq ▸ hr.keyNames⟩

/-- The database has mild behaviors that run through, and nothing in it makes finalization stop with a
part of a relation done. -/
structure Database.Retryable (registry : Registry) (p : Platform) (db : Database) : Prop where
  mild : db.Mild registry
  applied : ∃ a, Database.applyBehaviors registry db = .ok () a
  relational : db.Relational p
  regular : db.Regular

theorem repeats_finalize : Repeats (Database.Retryable registry p) (Database.finalize registry p) := by
  intro db t fault hd h
  rcases bind_eq_error_iff.1 h with h | ⟨a, ha, h⟩
  · obtain ⟨a, ha⟩ := hd.applied
    rw [ha] at h
    cases h
  · -- a pass stopped, and the passes are no reason for the behaviors to run again
    have htamed := tamed_applyBehaviors hd.mild
    rw [after_of_ok ha] at htamed
    have hbehaviors := applyBehaviors_after_passes hd.mild ha p
    rw [after_of_error h] at hbehaviors
    have hpasses := Finalization.passes_of_error (htamed.extension.regular hd.regular)
      (htamed.extension.relational hd.relational) h
    exact bind_eq_error_iff.2 (.inr ⟨t, hbehaviors, hpasses⟩)

namespace Schema

variable {s joined t : Schema}

def finalizeDatabases (registry : Registry) (p : Platform) : Edit Schema Unit :=
  Edit.within (·.databases) (fun s databases => { s with databases }) (Edit.each (Database.finalize registry p))

theorem finalize_of_join (h : s.join = .ok () joined) :
    Schema.finalize registry p s = finalizeDatabases registry p joined := by
  simp [finalize, finalizeEach, h, finalizeDatabases]

/-- The join that stopped is forgotten: only what it left in the databases is finalized next. -/
theorem finalize_after_join_error (registry : Registry) (p : Platform) (h : s.join = .error fault t) :
    Schema.finalize registry p s = .error fault t ∧
      Schema.finalize registry p t = finalizeDatabases registry p t :=
  ⟨by simp [finalize, finalizeEach, h], finalize_of_join (join_of_error h).2⟩

/-- A finalization that stopped after the join stops in the same way when it is run again. -/
theorem finalize_fails_again (hj : s.join = .ok () joined) (hd : ∀ db ∈ joined.databases, db.Retryable registry p)
    (h : Schema.finalize registry p s = .error fault t) : Schema.finalize registry p t = .error fault t := by
  rw [finalize_of_join hj] at h
  have hstops : Repeats (Database.Retryable registry p) (Database.finalize registry p) := repeats_finalize
  have hrepeats := Repeats.each (fun db _ hd => finalize_of_ok hd.mild hd.relational) hstops
  cases hx : Edit.each (Database.finalize registry p) joined.databases with
  | ok _ databases => simp [finalizeDatabases, Edit.within, hx] at h
  | error fault' databases =>
      obtain ⟨rfl, rfl⟩ : fault' = fault ∧ { joined with databases } = t := by
        simpa [finalizeDatabases, Edit.within, hx] using h
      rw [finalize_of_join (join_of_ok hj databases)]
      simp [finalizeDatabases, Edit.within, hrepeats hd hx]

def numberField (name : String) : Field := { name, domain := .ofType .integer, primaryKey := true }

def shelf : Entity := { name := "shelf", fields := [numberField "id"] }

def book : Entity :=
  { name := "book", fields := [numberField "id"],
    relations := [{ entity := some "book", foreignEntity := "author" }] }

def shelvedLibrary : Schema where
  databases := [{ name := "library", entities := [book] }]
  externals := [{ databases := [{ name := "library", entities := [shelf] }] }]

def joinedLibrary : Database where
  name := "library"
  entities := [book, { shelf with database := some "library", givenIdMethod := some .native }]

theorem finalize_fails_again_shelvedLibrary : ∃ joined fault t, shelvedLibrary.join = .ok () joined ∧
    Schema.finalize .builtins {} shelvedLibrary = .error fault t ∧
      Schema.finalize .builtins {} t = .error fault t := by
  have hj : shelvedLibrary.join = .ok () { databases := [joinedLibrary], externals := [{}] } := rfl
  obtain ⟨fault, t, h⟩ : ∃ fault t, Schema.finalize .builtins {} shelvedLibrary = .error fault t :=
    exists_eq_error (by decide +kernel)
  have hretryable : joinedLibrary.Retryable .builtins {} :=
    { mild := joinedLibrary.benign_builtins.mild
      applied := ⟨joinedLibrary, rfl⟩
      relational := fun hp => by cases hp
      regular := fun e he => ⟨by revert e; decide +kernel, by revert e; decide +kernel⟩ }
  exact ⟨_, fault, t, hj, h, finalize_fails_again hj (List.forall_mem_singleton.2 hretryable) h⟩

def penName : Entity := { name := "author", fields := [numberField "pen_name", numberField "penName"] }

def pennedLibrary : Schema where
  databases := [{ name := "library", entities := [penName, book] }]

def doubledLibrary : Schema where
  databases := [{ name := "library", entities := [shelf] }]
  externals := [{ databases := [{ name := "library", entities := [shelf] }, { name := "archive" }] }]

/-- Faults that the second run does not find: the relation has a pair by then, and the archive is gone. -/
theorem exists_forgotten_fault :
    (∃ fault t u, Schema.finalize .builtins {} pennedLibrary = .error fault t ∧
      Schema.finalize .builtins {} t = .ok () u) ∧
    ∃ fault t u, Schema.finalize .builtins {} doubledLibrary = .error fault t ∧
      Schema.finalize .builtins {} t = .ok () u ∧ u.database? "archive" = none := by
  constructor
  · obtain ⟨fault, t, h⟩ : ∃ fault t, Schema.finalize .builtins {} pennedLibrary = .error fault t :=
      exists_eq_error (by decide +kernel)
    obtain ⟨u, hu⟩ : ∃ u, Schema.finalize .builtins {} ((Schema.finalize .builtins {}).after pennedLibrary) =
        .ok () u :=
      exists_eq_ok (by decide +kernel)
    rw [after_of_error h] at hu
    exact ⟨fault, t, u, h, hu⟩
  · obtain ⟨fault, t, hj⟩ : ∃ fault t, doubledLibrary.join = .error fault t := ⟨_, _, rfl⟩
    obtain ⟨h, ht⟩ := finalize_after_join_error .builtins {} hj
    cases hj
    refine ⟨_, _, _, h, ht.trans rfl, ?_⟩
    rfl

end Schema

end Tablecraft
