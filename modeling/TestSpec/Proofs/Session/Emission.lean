import TestSpec.Proofs.Check.Template
import TestSpec.Proofs.Relation.Memo
import TestSpec.Proofs.Session.Declarations
import TestSpec.Session.Redirect

/-!
# Checks that emit the same wherever they are made

All checks of a run share one session, and each may leave something in it: stamps on
declarations, answers in the memo of the resolver, diagnostics and their count.  Once all
declarations are settled nothing of that matters to a later check.  A session is **grounded** in
a base session if it has the store, options, pass and nesting of the base, and
its resolver remembers nothing but what a resolver without memory answers on that
store.

A check is **uniform** on a base if it answers the same and appends the same diagnostics in
every session grounded in the base, and leaves it grounded (`Check.Emits`,
`Check.Uniform`).  Uniformity is kept by sequencing, so that each check of a session is
uniform where the declarations that it checks on its way are settled.
-/

namespace TestSpec

namespace Session

/-- The session has the store, options, pass and nesting of the base, and its resolver remembers
answers on that store alone. -/
structure Grounded (base s : Session) : Prop where
  store : s.store = base.store
  options : s.options = base.options
  pass : s.pass = base.pass
  nesting : s.nesting = base.nesting
  recorded : ∃ l, Recorded s l ∧ ∀ e ∈ l, e.2 = base.store

variable {base s : Session}

/-- A session whose resolver remembers nothing is grounded in itself. -/
theorem Grounded.refl_of_fresh (h : base.resolver = {}) : base.Grounded base :=
  ⟨rfl, rfl, rfl, rfl, [], Recorded.of_fresh h, by simp⟩

/-- Diagnostics play no part in whether a session is grounded. -/
theorem Grounded.report (h : base.Grounded s) (collector : Collector) (errorCount : Nat) :
    base.Grounded { s with collector, errorCount } := by
  obtain ⟨l, hrecord, hl⟩ := h.recorded
  exact ⟨h.store, h.options, h.pass, h.nesting, l,
    ⟨hrecord.guard, hrecord.pass_le, hrecord.entries, hrecord.stores, hrecord.marks⟩, hl⟩

theorem Grounded.isSettled (h : base.Grounded s) {id : TypeId} (hid : base.IsSettled id) :
    s.IsSettled id := by
  rw [IsSettled, h.store, h.pass]
  exact hid

end Session

namespace Check

variable {base : Session} {α β : Type}

/-- The check answers `a` and appends `ds` to the diagnostics in every session that is grounded in
the base, and leaves it so. -/
def Emits (base : Session) (c : Check α) (a : α) (ds : List Diagnostic) : Prop :=
  ∀ s, base.Grounded s → ∃ t, c.run s = (a, t) ∧ base.Grounded t ∧
    t.collector.toList = s.collector.toList ++ ds ∧
    t.errorCount = s.errorCount + ds.countP Diagnostic.isError

/-- The check answers and appends the same in every session that is grounded in the base. -/
def Uniform (base : Session) (c : Check α) : Prop := ∃ a ds, Emits base c a ds

/-! ### Sequencing -/

theorem Emits.pure (a : α) : Emits base (Pure.pure a) a [] :=
  fun s hs => ⟨s, rfl, hs, by simp, by simp⟩

theorem Emits.bind {c : Check α} {f : α → Check β} {a : α} {b : β} {ds es : List Diagnostic}
    (hc : Emits base c a ds) (hf : Emits base (f a) b es) : Emits base (c >>= f) b (ds ++ es) := by
  intro s hs
  obtain ⟨t, hrun, ht, hlist, hcount⟩ := hc s hs
  obtain ⟨u, hrun', hu, hlist', hcount'⟩ := hf t ht
  refine ⟨u, ?_, hu, by rw [hlist', hlist, List.append_assoc], ?_⟩
  · rw [StateT.run_bind, hrun]
    exact hrun'
  · rw [hcount', hcount, List.countP_append, Nat.add_assoc]

namespace Uniform

theorem pure (a : α) : Uniform base (Pure.pure a) := ⟨a, [], .pure a⟩

theorem bind {c : Check α} {f : α → Check β} (hc : Uniform base c)
    (hf : ∀ a, Uniform base (f a)) : Uniform base (c >>= f) := by
  obtain ⟨a, ds, hc⟩ := hc
  obtain ⟨b, es, hf⟩ := hf a
  exact ⟨b, ds ++ es, hc.bind hf⟩

theorem map {c : Check α} (hc : Uniform base c) (f : α → β) : Uniform base (f <$> c) := by
  rw [map_eq_pure_bind]
  exact hc.bind fun a => .pure (f a)

/-- Looking at the session is uniform where what is looked at is the same in all grounded
sessions. -/
theorem get_bind {f : Session → Check α} (h : ∀ s, base.Grounded s → f s = f base)
    (hbase : Uniform base (f base)) : Uniform base (get >>= f) := by
  obtain ⟨a, ds, hbase⟩ := hbase
  refine ⟨a, ds, fun s hs => ?_⟩
  obtain ⟨t, hrun, ht⟩ := hbase s hs
  refine ⟨t, ?_, ht⟩
  rw [StateT.run_bind, StateT.run_get, pure_bind, h s hs]
  exact hrun

/-- Whether a check adds to the count of errors is the same wherever it is made. -/
theorem get_bind_count {f : Session → Check α} {c : Check Unit} {g : Bool → Check α}
    (h : ∀ s, base.Grounded s → f s = do
      c
      let t ← get
      g (decide (t.errorCount = s.errorCount)))
    (hc : Uniform base c) (hg : ∀ b, Uniform base (g b)) : Uniform base (get >>= f) := by
  obtain ⟨⟨⟩, ds, hc⟩ := hc
  obtain ⟨a, es, hg⟩ := hg (decide (ds.countP Diagnostic.isError = 0))
  refine ⟨a, ds ++ es, fun s hs => ?_⟩
  obtain ⟨t, hrun, ht, hlist, hcount⟩ := hc s hs
  obtain ⟨u, hrun', hu, hlist', hcount'⟩ := hg t ht
  have hsame : decide (t.errorCount = s.errorCount) =
      decide (ds.countP Diagnostic.isError = 0) := by
    rw [hcount, decide_eq_decide]
    omega
  refine ⟨u, ?_, hu, by rw [hlist', hlist, List.append_assoc], ?_⟩
  · rw [StateT.run_bind, StateT.run_get, pure_bind, h s hs, StateT.run_bind, hrun]
    rw [← hsame] at hrun'
    exact hrun'
  · rw [hcount', hcount, List.countP_append, Nat.add_assoc]

/-! ### Reports -/

theorem emitAll (location : Location) (complaints : List Complaint) :
    Uniform base (modify fun s => s.emitAll location complaints) := by
  refine ⟨(), complaints.map (Complaint.diagnostic location), fun s hs => ?_⟩
  obtain ⟨collector, errorCount, hreported, hlist⟩ := s.emitAll_eq location complaints
  refine ⟨s.emitAll location complaints, rfl, ?_, ?_, s.errorCount_emitAll location complaints⟩
  · rw [hreported]
    exact hs.report collector errorCount
  · rw [hreported]
    exact hlist

theorem emit (d : Diagnostic) : Uniform base (modify fun s => s.emit d) := by
  exact ⟨(), [d], fun s hs =>
    ⟨s.emit d, rfl, hs.report _ _, Collector.toList_report _ _, s.errorCount_emit d⟩⟩

theorem report (location : Location) (m : Message) (args : List String) :
    Uniform base (Check.report location m args) := emit _

/-! ### Checks -/

variable {id expected actual : TypeId}

/-- The check of a settled declaration does nothing. -/
theorem declaration (h : base.IsSettled id) : Uniform base (Check.declaration id) := by
  refine ⟨(base.store.get id).isBuiltin || !(base.store.get id).isErroneous, [], fun s hs => ?_⟩
  refine ⟨s, ?_, hs, by simp, by simp⟩
  rw [Session.declaration_of_settled (hs.isSettled h), hs.store]

/-- The memo answers as a resolver without memory on the store of the base. -/
theorem relation (expected actual : TypeId) (x y : Bool) :
    Uniform base (Check.relation expected actual x y) := by
  refine ⟨base.store.answer (base.keyOf expected actual x y), [], fun s hs => ?_⟩
  obtain ⟨l, hrecord, hl⟩ := hs.recorded
  have hkey : s.keyOf expected actual x y = base.keyOf expected actual x y := by
    simp only [Session.keyOf, hs.store, hs.options]
  have hnamed : l.storeOf s (s.keyOf expected actual x y) = base.store := by
    unfold Ledger.storeOf
    cases hfound : l.lookup (s.keyOf expected actual x y) with
    | none => exact hs.store
    | some st =>
      obtain ⟨l₁, l₂, heq, -⟩ := List.lookup_eq_some_iff.mp hfound
      exact hl (s.keyOf expected actual x y, st) (by simp [heq])
  have hanswer := hrecord.relation_fst expected actual x y
  rw [hnamed, hkey] at hanswer
  refine ⟨s.after (.relation expected actual x y), Prod.ext hanswer rfl, ?_,
    (List.append_nil s.collector.toList).symm, rfl⟩
  refine ⟨hs.store, hs.options, hs.pass, hs.nesting, _,
    hrecord.after_relation expected actual x y, ?_⟩
  rw [Ledger.after]
  split
  · exact hl
  · exact List.forall_mem_cons.mpr ⟨hs.store, hl⟩

theorem reportConversion (location : Location) (expected actual : String) :
    Uniform base (Check.reportConversion location expected actual) := by
  unfold Check.reportConversion
  refine get_bind (fun s hs => by rw [hs.options]) ?_
  cases base.options.typeCompatibility with
  | ignore => exact .pure ()
  | warning => exact emit _
  | error => exact emit _

/-- The check of a reference is uniform where both types are settled. -/
theorem reference (hexpected : base.IsSettled expected) {r : Reference}
    (hactual : base.IsSettled r.type) (expectation : Expectation) :
    Uniform base (Check.reference expected r expectation) := by
  unfold Check.reference
  refine (declaration hexpected).bind fun _ => (declaration hactual).bind fun _ =>
    (relation expected r.type false r.isStringElement).bind fun answer =>
      get_bind (fun s hs => by simp only [hs.store]) ?_
  dsimp only
  split
  · split
    · exact (reportConversion _ _ _).bind fun _ => .pure true
    · exact .pure true
  · exact (emitAll _ _).bind fun _ => .pure false

theorem expression (location : Location) (expected : TypeId) (result : Kind) :
    Uniform base (Check.expression location expected result) := by
  unfold Check.expression
  refine get_bind (fun s hs => by simp only [hs.store]) ?_
  split
  · exact .pure true
  · exact (report _ _ _).bind fun _ => .pure false

/-- A walk that comes back at the nesting it was started with is uniform. -/
theorem keep {location : Location} {walk : Nesting → Findings × Nesting}
    (hwalk : ∀ n, (walk n).2 = n) : Uniform base (Check.keep location walk) := by
  refine ⟨(walk base.nesting).1.ok,
    (walk base.nesting).1.complaints.map (Complaint.diagnostic location), fun s hs => ?_⟩
  obtain ⟨collector, errorCount, hreported, hlist⟩ :=
    s.emitAll_eq location (walk base.nesting).1.complaints
  have hcount := s.errorCount_emitAll location (walk base.nesting).1.complaints
  rw [hreported] at hcount
  refine ⟨{ s with collector, errorCount }, ?_, hs.report collector errorCount, hlist, hcount⟩
  have hrun : (Check.keep location walk).run s = ((walk s.nesting).1.ok,
      { s.emitAll location (walk s.nesting).1.complaints with nesting := (walk s.nesting).2 }) :=
    rfl
  rw [hrun, hwalk, hs.nesting, hreported, ← hs.nesting]

theorem value (location : Location) (type : TypeId) (v : Value) :
    Uniform base (Check.value location type v) := by
  unfold Check.value
  refine get_bind (fun s hs => by rw [hs.store]) (keep fun n => ?_)
  exact Store.checkValue_nesting type n v

theorem template (location : Location) (type : TypeId) (t : Template) (isOptional : Bool) :
    Uniform base (Check.template location type t isOptional) := by
  unfold Check.template
  refine get_bind (fun s hs => by rw [hs.store]) (keep fun n => ?_)
  exact Store.checkTemplate_nesting type isOptional n t

/-! ### Redirects -/

section Redirects

variable {parameters : List Parameter} {signature : String} {side : RedirectSide}

/-- The types of parameters are settled, as far as there are any. -/
def SettledParameters (base : Session) (parameters : List Parameter) : Prop :=
  ∀ p ∈ parameters, ∀ t ∈ base.store.resolveRef? p.type, base.IsSettled t

theorem assignment (hparameters : SettledParameters base parameters) {a : ParameterAssignment}
    (ha : ∀ t ∈ a.variableType, base.IsSettled t) :
    Uniform base (Check.assignment signature parameters side a) := by
  unfold Check.assignment
  split
  · exact report _ _ _
  · rename_i p hp
    split
    · exact report _ _ _
    · refine get_bind (fun s hs => by rw [hs.store]) ?_
      split
      · rename_i variableType type hvariable htype
        have hsettled := hparameters p (List.mem_of_find?_eq_some hp) type htype
        exact (reference (ha variableType hvariable) hsettled _).bind fun _ => .pure ()
      · exact .pure ()

theorem assignments (hparameters : SettledParameters base parameters)
    {as : List ParameterAssignment} (has : ∀ a ∈ as, ∀ t ∈ a.variableType, base.IsSettled t)
    (given : List ParameterAssignment) :
    Uniform base (Check.assignments signature parameters side given as) := by
  induction as generalizing given with
  | nil => exact .pure ()
  | cons a rest ih =>
    rw [List.forall_mem_cons] at has
    rw [Check.assignments]
    split
    · exact (report _ _ _).bind fun _ => (report _ _ _).bind fun _ => ih has.2 given
    · exact (assignment hparameters has.1).bind fun _ => ih has.2 (a :: given)

theorem redirectParts {d : Declaration} (hparameters : SettledParameters base d.parameters)
    {r : Redirect} (hr : ∀ a ∈ r.assignments, ∀ t ∈ a.variableType, base.IsSettled t) :
    Uniform base (Check.redirectParts signature d side r) := by
  unfold Check.redirectParts
  split
  · exact report _ _ _
  split
  · exact report _ _ _
  · exact assignments hparameters hr []

/-- The check of a redirect is uniform: whether it is in order depends on what it emits itself, not
on the errors counted before. -/
theorem redirect {signature : TypeId} {r : Redirect}
    (hparameters : ∀ id, SettledParameters base (base.store.get id).parameters)
    (hr : ∀ a ∈ r.assignments, ∀ t ∈ a.variableType, base.IsSettled t) :
    Uniform base (Check.redirect signature r side) := by
  unfold Check.redirect
  cases hclaim : r.stamp.claim? base.pass with
  | none =>
    refine get_bind (fun s hs => by simp only [hs.pass, hclaim]) ?_
    simp only [hclaim]
    exact .pure _
  | some stamp =>
    cases herroneous : base.store.isErroneous signature with
    | true =>
      refine get_bind (fun s hs => by simp only [hs.pass, hs.store, hclaim, herroneous, if_true]) ?_
      simp only [hclaim, herroneous, if_true]
      exact .pure _
    | false =>
      cases hlast : base.store.resolveAlias? signature with
      | none =>
        refine get_bind (fun s hs => by
          simp only [hs.pass, hs.store, hclaim, herroneous, hlast, Bool.false_eq_true, if_false]) ?_
        simp only [hclaim, herroneous, hlast, Bool.false_eq_true, if_false]
        exact .pure _
      | some last =>
        let d := base.store.get last
        refine get_bind_count
          (c := Check.redirectParts (base.store.name signature) d side r)
          (g := fun ok => Pure.pure (ok, { r with
            stamp := stamp.mark !ok
            entries := if ok then some (variableTable d.parameters r.assignments) else none }))
          (fun s hs => ?_) (redirectParts (hparameters last) hr) fun _ => .pure _
        simp only [hs.pass, hs.store, hclaim, herroneous, hlast, Bool.false_eq_true, if_false,
          decide_eq_true_eq]
        rfl

end Redirects

end Uniform

end Check

end TestSpec
