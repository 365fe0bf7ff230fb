import Mathlib.Data.List.Perm.Basic
import Tablecraft.Proofs.Behavior.Stamping
import Tablecraft.Proofs.Finalization.Notices
import Tablecraft.Proofs.Finalization.Passes
import Tablecraft.Proofs.Finalization.Sweep

namespace Tablecraft

open List Edit

variable {registry : Registry} {p : Platform} {heavy : Bool} {db db' a u t : Database} {b : Behavior}

namespace Database.Reordered

theorem symm (h : db.Reordered db') : db'.Reordered db :=
  ⟨h.entities.symm, h.behaviors.symm, h.heavyIndexing.symm⟩

theorem stamping (h : db.Reordered db') (hs : db.Stamping registry) : db'.Stamping registry :=
  ⟨fun b hb => hs.behaviors b (h.behaviors ▸ hb), fun e he => hs.entities e (h.entities.mem_iff.2 he)⟩

theorem applyBehaviors (h : db.Reordered db') (hn : db.Unmistakable) (hs : db.Stamping registry)
    (ha : Database.applyBehaviors registry db = .ok () a) :
    ∃ a', Database.applyBehaviors registry db' = .ok () a' ∧ a.Reordered a' ∧ a.Unmistakable := by
  obtain ⟨hlimit, rfl⟩ := (Schedule.applyBehaviors_eq_ok_iff hn.addressed hs).1 ha
  have hcount := (h.entities.flatMap_right fun e => (Schedule.spread db.behaviors e).behaviors).countP_eq
    (!·.applied)
  have hrun := (Schedule.applyBehaviors_eq_ok_iff (hn.perm h.entities).addressed (h.stamping hs)).2
    ⟨by rw [h.behaviors, ← hcount]; exact hlimit, rfl⟩
  refine ⟨_, hrun, ⟨?_, h.behaviors, h.heavyIndexing⟩, ?_⟩
  · rw [h.behaviors]
    exact h.entities.map _
  · exact hn.congr (List.forall₂_map_right_iff.2 (forall₂_same.2 fun e _ => Schedule.sameNames_stamp _ e))

theorem settleAll (h : a.Reordered db') (hn : a.Unmistakable)
    (hu : Finalization.settleAll p heavy a.entityNames a = .ok () u) :
    ∃ u', Finalization.settleAll p heavy db'.entityNames db' = .ok () u' ∧ u.Reordered u' ∧ u.Unmistakable ∧
      u.entityNames = a.entityNames ∧ u'.entityNames = db'.entityNames := by
  have hsettled := (Finalization.settleAll_eq_ok_iff hn.addressed).1 hu
  have hx := (Finalization.keeps_settleAll p heavy a.entityNames).of_ok hu (.refl a)
  obtain ⟨es, hes, hperm⟩ := List.perm_comp_forall₂ h.entities.symm hsettled.entities
  have hu' : Finalization.settleAll p heavy db'.entityNames db' = .ok () { db' with entities := es } := by
    refine (Finalization.settleAll_eq_ok_iff (hn.perm h.entities).addressed).2 ⟨rfl, ?_⟩
    rw [hn.entity?_eq h.entities]
    exact hes
  have hx' := (Finalization.keeps_settleAll p heavy db'.entityNames).of_ok hu' (.refl db')
  refine ⟨_, hu', ⟨hperm.symm, ?_, ?_⟩, hn.congr hx.sameNames, entityNames_congr hx.sameNames,
    entityNames_congr hx'.sameNames⟩
  · rw [hx.frame]
    exact h.behaviors
  · rw [hx.frame]
    exact h.heavyIndexing

theorem registerAllRelations (h : u.Reordered db') (hn : u.Unmistakable)
    (ht : Finalization.registerAllRelations u.entityNames u = .ok () t) :
    ∃ t', Finalization.registerAllRelations db'.entityNames db' = .ok () t' ∧
      ∀ e ∈ t.entities, ∃ e', t'.entity? e.name = some e' ∧ e'.name = e.name ∧ e.Alike e' := by
  have hn' := hn.perm h.entities
  obtain ⟨lss, hlss, rfl⟩ := (Finalization.registerAllRelations_eq_ok_iff hn).1 ht
  obtain ⟨lss', hlss', hperm⟩ := List.perm_comp_forall₂ h.entities.symm hlss
  refine ⟨Finalization.deliver lss'.flatten db', ?_, fun e he => ?_⟩
  · rw [Finalization.registerAllRelations_eq_ok_iff hn', hn.entity?_eq h.entities]
    exact ⟨lss', hlss', rfl⟩
  · obtain ⟨x, hx, rfl⟩ := List.mem_map.1 he
    have halike := Finalization.alike_foldl_receive hperm.flatten.symm x
    have hname := halike.sameNames.1
    have hx' : lss'.flatten.foldl Finalization.receive x ∈ (Finalization.deliver lss'.flatten db').entities :=
      List.mem_map_of_mem (h.entities.mem_iff.1 hx)
    refine ⟨_, ?_, hname, halike⟩
    rw [← hname]
    exact (Finalization.unmistakable_deliver hn' lss'.flatten).addressed.entity?_eq hx'

end Database.Reordered

def Platform.Passless (p : Platform) : Prop := p.dialect = .generic ∨ p.dialect = .sqlite

theorem Platform.Passless.dialectPass_eq (hp : p.Passless) (names : List String) :
    Finalization.dialectPass p names = pure () := by
  unfold Finalization.dialectPass
  rcases hp with h | h <;> rw [h]

theorem Database.exists_finalize (hp : p.Passless) (h : db.Reordered db') (hn : db.Unmistakable)
    (hs : db.Stamping registry) (ht : (Database.finalize registry p).result db = .ok t) :
    ∃ t', (Database.finalize registry p).result db' = .ok t' ∧
      ∀ e ∈ t.entities, ∃ e', t'.entity? e.name = some e' ∧ e'.name = e.name ∧ e.Alike e' := by
  obtain ⟨a, u, v, hstages⟩ := Database.exists_stages ht
  obtain ⟨a', ha', hra, hna⟩ := h.applyBehaviors hn hs hstages.applied
  obtain ⟨u', hu', hru, hnu, hnames, hnames'⟩ := hra.settleAll hna hstages.settled
  obtain ⟨t', ht', halike⟩ := hru.registerAllRelations hnu (hnames ▸ hstages.registered)
  have hv : v = t := by
    have hd := hstages.dialect
    rw [hp.dialectPass_eq] at hd
    cases hd
    rfl
  refine ⟨t', result_eq_ok_iff.2 (bind_eq_ok_iff.2 ⟨(), a', ha', ?_⟩), hv ▸ halike⟩
  refine bind_eq_ok_iff.2 ⟨(), u', hra.heavyIndexing ▸ hu', bind_eq_ok_iff.2 ⟨(), t', hnames' ▸ ht', ?_⟩⟩
  rw [hp.dialectPass_eq]
  rfl

/-- In whatever order a database holds its entities, it is finalized or refused, and each entity comes out the
same but for the order of its referrers. -/
theorem Database.finalize_of_reordered (hp : p.Passless) (h : db.Reordered db') (hn : db.Unmistakable)
    (hs : db.Stamping registry) :
    ((∃ t, (Database.finalize registry p).result db = .ok t) ↔
      ∃ t', (Database.finalize registry p).result db' = .ok t') ∧
      ∀ t t', (Database.finalize registry p).result db = .ok t →
        (Database.finalize registry p).result db' = .ok t' →
        ∀ e ∈ t.entities, ∃ e', t'.entity? e.name = some e' ∧ e'.name = e.name ∧ e.Alike e' := by
  refine ⟨⟨fun ⟨t, ht⟩ => ?_, fun ⟨t', ht'⟩ => ?_⟩, fun t t' ht ht' => ?_⟩
  · exact (exists_finalize hp h hn hs ht).imp fun _ h => h.1
  · exact (exists_finalize hp h.symm (hn.perm h.entities) (h.stamping hs) ht').imp fun _ h => h.1
  · obtain ⟨t₁, ht₁, halike⟩ := exists_finalize hp h hn hs ht
    obtain rfl := Except.ok.inj (ht₁.symm.trans ht')
    exact halike

theorem Registry.effectOf_of_effect (h : b.effect = some "timestampable") :
    builtins.effectOf b = Timestampable.effect := by
  have hkey : Text.lower "timestampable" = "timestampable" := by decide +kernel
  rw [effectOf, h, Option.bind_some, builtins, register, NameMap.get?_insert, hkey, if_pos rfl, Option.getD_some]

def stampedLibrary (entities : List Entity) : Except Fault Database :=
  entities.foldlM (fun db e => db.addEntity e)
    { name := "library"
      behaviors := [{ Behavior.plain "timestampable" with
        effect := some "timestampable", parameters := Timestampable.defaults }] }

def mentoredAuthor : Entity where
  name := "author"
  fields := [{ name := "id", domain := .ofType .integer, primaryKey := true }]
  relations := [{ givenField := some "mentor", foreignEntity := "author" },
    { givenField := some "favourite", foreignEntity := "book" }]

def writtenBook : Entity where
  name := "book"
  fields := [{ name := "id", domain := .ofType .integer, primaryKey := true },
    { name := "writer", domain := .ofType .integer }]
  relations := [{ foreignEntity := "author", references := [("writer", "id")] }]

/-- The two entities point at each other, and the referrers of the author tell in which order they stand. -/
theorem Database.finalize_of_reordered_author :
    ∃ db db' t t', stampedLibrary [mentoredAuthor, writtenBook] = .ok db ∧
    stampedLibrary [writtenBook, mentoredAuthor] = .ok db' ∧ (Database.finalize .builtins {}).result db = .ok t ∧
    (Database.finalize .builtins {}).result db' = .ok t' ∧
    ((t.entity? "author").map fun e => e.referrers.map (·.entity)) = some ["author", "book"] ∧
    ((t'.entity? "author").map fun e => e.referrers.map (·.entity)) = some ["book", "author"] ∧
    ∀ e ∈ t.entities, ∃ e', t'.entity? e.name = some e' ∧ e'.name = e.name ∧ e.Alike e' := by
  have hrun : (stampedLibrary [mentoredAuthor, writtenBook]).toOption.any (fun db =>
      (stampedLibrary [writtenBook, mentoredAuthor]).toOption.any fun db' =>
        ((Database.finalize .builtins {}).result db).toOption.any fun t =>
          ((Database.finalize .builtins {}).result db').toOption.any fun t' =>
            decide ((db.entities.Perm db'.entities ∧ db'.behaviors = db.behaviors ∧
              db'.heavyIndexing = db.heavyIndexing) ∧
              db.Unmistakable ∧ (∀ b ∈ db.behaviors, b.effect = some "timestampable") ∧
              (∀ e ∈ db.entities, e.behaviors = []) ∧
              ((t.entity? "author").map fun e => e.referrers.map (·.entity)) = some ["author", "book"] ∧
              ((t'.entity? "author").map fun e => e.referrers.map (·.entity)) =
                some ["book", "author"])) = true := by
    decide +kernel
  obtain ⟨db, hdb, hrun⟩ := (Option.any_eq_true _ _).1 hrun
  obtain ⟨db', hdb', hrun⟩ := (Option.any_eq_true _ _).1 hrun
  obtain ⟨t, ht, hrun⟩ := (Option.any_eq_true _ _).1 hrun
  obtain ⟨t', ht', hrun⟩ := (Option.any_eq_true _ _).1 hrun
  obtain ⟨⟨hperm, hbehaviors, hheavy⟩, hn, hb, he, hfirst, hsecond⟩ := of_decide_eq_true hrun
  have hs : db.Stamping Registry.builtins :=
    ⟨fun b hm => Registry.effectOf_of_effect (hb b hm), fun e hm b hbe => by simp [he e hm] at hbe⟩
  have ht := except_toOption_eq_some_iff.1 ht
  have ht' := except_toOption_eq_some_iff.1 ht'
  exact ⟨db, db', t, t', except_toOption_eq_some_iff.1 hdb, except_toOption_eq_some_iff.1 hdb', ht, ht',
    hfirst, hsecond, (finalize_of_reordered (.inl rfl) ⟨hperm, hbehaviors, hheavy⟩ hn hs).2 t t' ht ht'⟩

end Tablecraft
