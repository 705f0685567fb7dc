import TestSpec.Proofs.Store.Stamp
import TestSpec.Session.Basic

/-!
# What checks leave as it is

A check of a declaration puts another stamp on it and reports; the resolver, the
options, the pass and the nesting stay as they are, and so does the store but for
stamps.  Every complaint of a check is reported: a check that adds nothing to the
diagnostics has found no complaint.
-/

namespace TestSpec

namespace Session

/-- A diagnostic is counted if it is an error. -/
theorem errorCount_emit (s : Session) (d : Diagnostic) :
    (s.emit d).errorCount = s.errorCount + [d].countP Diagnostic.isError := by
  rw [List.countP_singleton, emit]
  dsimp only
  split <;> rfl

/-- Reporting adds the errors among the complaints to the count. -/
theorem errorCount_emitAll (s : Session) (location : Location) (complaints : List Complaint) :
    (s.emitAll location complaints).errorCount = s.errorCount +
      (complaints.map (Complaint.diagnostic location)).countP Diagnostic.isError := by
  induction complaints generalizing s with
  | nil => rfl
  | cons c rest ih =>
    have hcons : s.emitAll location (c :: rest) =
        (s.emit (c.diagnostic location)).emitAll location rest := rfl
    rw [hcons, ih, errorCount_emit, List.map_cons, Nat.add_assoc, ← List.countP_append,
      List.singleton_append]

/-- Reporting changes the diagnostics alone, and counts the errors among them. -/
theorem emitAll_eq (s : Session) (location : Location) (complaints : List Complaint) :
    ∃ collector errorCount, s.emitAll location complaints = { s with collector, errorCount } ∧
      collector.toList = s.collector.toList ++ complaints.map (Complaint.diagnostic location) := by
  induction complaints generalizing s with
  | nil => exact ⟨s.collector, s.errorCount, rfl, by simp⟩
  | cons c rest ih =>
    obtain ⟨collector, errorCount, h, hlist⟩ := ih (s.emit (c.diagnostic location))
    refine ⟨collector, errorCount, h, ?_⟩
    rw [hlist]
    simp [emit]

/-- Checking a declaration may put another stamp on it, and reports; nothing else changes. -/
theorem declaration_eq (s : Session) (id : TypeId) :
    ∃ store collector errorCount, store.unstamped = s.store.unstamped ∧
      ((Check.declaration id).run s).2 = { s with store, collector, errorCount } := by
  simp only [Check.declaration, Check.stamp, StateT.run_bind, StateT.run_get, pure_bind]
  split
  · exact ⟨s.store, s.collector, s.errorCount, rfl, rfl⟩
  split
  · exact ⟨s.store, s.collector, s.errorCount, rfl, rfl⟩
  · obtain ⟨collector, errorCount, hreported, -⟩ :=
      s.emitAll_eq (s.store.get id).location (s.store.complaints id)
    simp only [StateT.run_bind, StateT.run_modify, hreported, pure_bind]
    exact ⟨_, collector, errorCount, s.store.unstamped_setStamp id _, rfl⟩

/-- Checking declarations leaves the same as it is as checking one of them. -/
theorem declarations_eq (s : Session) (ids : List TypeId) :
    ∃ store collector errorCount, store.unstamped = s.store.unstamped ∧
      ((Check.declarations ids).run s).2 = { s with store, collector, errorCount } := by
  induction ids generalizing s with
  | nil => exact ⟨s.store, s.collector, s.errorCount, rfl, rfl⟩
  | cons id rest ih =>
    obtain ⟨store, collector, errorCount, hsame, h⟩ := s.declaration_eq id
    obtain ⟨store', collector', errorCount', hsame', h'⟩ :=
      ih { s with store, collector, errorCount }
    refine ⟨store', collector', errorCount', hsame'.trans hsame, ?_⟩
    have hrun : ((Check.declarations (id :: rest)).run s).2 =
        ((Check.declarations rest).run ((Check.declaration id).run s).2).2 := rfl
    rw [hrun, h, h']

/-- Checking all declarations leaves the same as it is as checking one of them. -/
theorem allDeclarations_eq (s : Session) :
    ∃ store collector errorCount, store.unstamped = s.store.unstamped ∧
      (Check.allDeclarations.run s).2 = { s with store, collector, errorCount } :=
  s.declarations_eq s.store.userTypes

end Session

/-- A check of a template that reports nothing has found no complaint. -/
theorem Check.complaints_eq_nil_of_template {s : Session} {location : Location} {type : TypeId}
    {t : Template} {isOptional : Bool}
    (h : ((Check.template location type t isOptional).run s).2.collector = s.collector) :
    (s.store.checkTemplate type isOptional s.nesting t).1.complaints = [] := by
  obtain ⟨collector, errorCount, hreported, hlist⟩ := s.emitAll_eq location
    (s.store.checkTemplate type isOptional s.nesting t).1.complaints
  have hrun : ((Check.template location type t isOptional).run s).2.collector = (s.emitAll location
      (s.store.checkTemplate type isOptional s.nesting t).1.complaints).collector := rfl
  rw [hrun, hreported] at h
  simpa [show collector = s.collector from h] using hlist

end TestSpec
