import Mathlib.Logic.Relation
import TestSpec.Proofs.Check.Session
import TestSpec.Proofs.Check.Template
import TestSpec.Proofs.Relation.Memo
import TestSpec.Session.Redirect

/-!
# What checks are made of

Whatever a check finds, it takes its session from state to state by three sorts of **steps**:
it emits a diagnostic, puts a stamp on a declaration, or asks the resolver.  That every check
is made of steps is shown by the rules of sequencing, check by check (`Check.Stepping`).

So what each step keeps is kept by every check.  The session stays in its pass, with its
options and its nesting, and its store stays the same but for stamps
(`Session.Steps.sameSetting`); and what the resolver has answered in the pass it remembers
(`Session.Steps.remembers`).
-/

namespace TestSpec

namespace Session

/-- What a check does to its session at once. -/
inductive Step (s : Session) : Session → Prop where
  | emit (d : Diagnostic) : Step s (s.emit d)
  | stamp (id : TypeId) (stamp : CheckStamp) :
      Step s { s with store := s.store.setStamp id stamp }
  | ask (expected actual : TypeId) (x y : Bool) :
      Step s { s with resolver := (s.resolver.query s.store s.pass s.options.strictStructural
        expected actual x y).2 }

/-- The session gets from one state to the other by steps. -/
abbrev Steps : Session → Session → Prop := Relation.ReflTransGen Step

variable {s t u : Session}

theorem steps_emitAll (s : Session) (location : Location) (complaints : List Complaint) :
    s.Steps (s.emitAll location complaints) := by
  induction complaints generalizing s with
  | nil => exact .refl
  | cons c rest ih => exact .head (.emit (c.diagnostic location)) (ih _)

/-! ### The setting of a session -/

/-- The pass, the options and the nesting are the same, and so is the store but for stamps. -/
structure SameSetting (s t : Session) : Prop where
  pass : t.pass = s.pass
  options : t.options = s.options
  nesting : t.nesting = s.nesting
  store : t.store.unstamped = s.store.unstamped

theorem SameSetting.trans (hst : s.SameSetting t) (htu : t.SameSetting u) : s.SameSetting u where
  pass := htu.pass.trans hst.pass
  options := htu.options.trans hst.options
  nesting := htu.nesting.trans hst.nesting
  store := htu.store.trans hst.store

theorem Step.sameSetting (h : s.Step t) : s.SameSetting t := by
  cases h with
  | emit d => exact ⟨rfl, rfl, rfl, rfl⟩
  | stamp id stamp => exact ⟨rfl, rfl, rfl, s.store.unstamped_setStamp id stamp⟩
  | ask => exact ⟨rfl, rfl, rfl, rfl⟩

theorem Steps.sameSetting (h : s.Steps t) : s.SameSetting t := by
  induction h with
  | refl => exact ⟨rfl, rfl, rfl, rfl⟩
  | tail _ hstep ih => exact ih.trans hstep.sameSetting

/-! ### What the resolver remembers -/

/-- The resolver remembers an answer in the pass of the session. -/
def Remembers (s : Session) (q : Query) (answer : Relation) : Prop :=
  (s.resolver.cache.sync s.pass).entries.lookup q = some answer

/-- What is remembered is answered. -/
theorem Remembers.answer_eq {expected actual : TypeId} {x y : Bool} {answer : Relation}
    (h : s.Remembers (s.keyOf expected actual x y) answer) :
    s.answer expected actual x y = answer := by
  have hquery : s.answer expected actual x y = (s.resolver.query s.store s.pass
      s.options.strictStructural expected actual x y).1 := rfl
  have hfound : (s.resolver.cache.sync s.pass).entries.lookup (Resolver.keyOf s.store
      s.options.strictStructural expected actual x y) = some answer := h
  rw [hquery, Resolver.query_fst, hfound, Option.getD_some]

/-- What is answered is remembered. -/
theorem remembers_relation (s : Session) (expected actual : TypeId) (x y : Bool) :
    ((Check.relation expected actual x y).run s).2.Remembers (s.keyOf expected actual x y)
      (s.answer expected actual x y) := by
  let resolver := (s.resolver.query s.store s.pass s.options.strictStructural expected actual
    x y).2
  have hcurrent : resolver.cache.IsCurrent s.pass := Resolver.isCurrent_query ..
  have hentries := (s.resolver.query_cache s.store s.pass s.options.strictStructural expected
    actual x y).2
  have hanswer : s.answer expected actual x y = _ := Resolver.query_fst
  have hgoal : (resolver.cache.sync s.pass).entries.lookup (s.keyOf expected actual x y) =
      some (s.answer expected actual x y) := by
    rw [PassCache.sync_of_isCurrent hcurrent, hentries, hanswer, keyOf]
    split
    · rename_i answer hfound
      rw [hfound, Option.getD_some]
    · rename_i hfound
      rw [hfound, Option.getD_none, List.lookup_cons_self]
  exact hgoal

/-- Asking for something else takes nothing back. -/
theorem Step.remembers (h : s.Step t) {q : Query} {answer : Relation}
    (hs : s.Remembers q answer) : t.Remembers q answer := by
  cases h with
  | emit d => exact hs
  | stamp id stamp => exact hs
  | ask expected actual x y =>
    let resolver := (s.resolver.query s.store s.pass s.options.strictStructural expected actual
      x y).2
    have hcurrent : resolver.cache.IsCurrent s.pass := Resolver.isCurrent_query ..
    have hentries := (s.resolver.query_cache s.store s.pass s.options.strictStructural expected
      actual x y).2
    have hgoal : (resolver.cache.sync s.pass).entries.lookup q = some answer := by
      rw [PassCache.sync_of_isCurrent hcurrent, hentries]
      split
      · exact hs
      · rename_i hfound
        -- the key that is noted was not remembered before, so it is another one
        have hother : (q == Resolver.keyOf s.store s.options.strictStructural expected actual
            x y) = false := by
          rw [beq_eq_false_iff_ne]
          rintro rfl
          rw [Remembers, hfound] at hs
          cases hs
        rw [List.lookup_cons, hother]
        exact hs
    exact hgoal

theorem Steps.remembers (h : s.Steps t) {q : Query} {answer : Relation}
    (hs : s.Remembers q answer) : t.Remembers q answer := by
  induction h with
  | refl => exact hs
  | tail _ hstep ih => exact hstep.remembers ih

/-- Once it was asked about two types, the resolver answers the same about them in the rest of the
pass, while the marks on the two stay the same. -/
theorem Steps.answer_eq {expected actual : TypeId} {x y : Bool}
    (h : ((Check.relation expected actual x y).run s).2.Steps t)
    (hexpected : t.store.isErroneous expected = s.store.isErroneous expected)
    (hactual : t.store.isErroneous actual = s.store.isErroneous actual) :
    t.answer expected actual x y = s.answer expected actual x y := by
  have hasked : s.Step ((Check.relation expected actual x y).run s).2 := .ask expected actual x y
  have hsetting := hasked.sameSetting.trans h.sameSetting
  have hkey : t.keyOf expected actual x y = s.keyOf expected actual x y := by
    rw [keyOf, keyOf, Resolver.keyOf, Resolver.keyOf, hsetting.options, hexpected, hactual]
  have hremembers := h.remembers (s.remembers_relation expected actual x y)
  rw [← hkey] at hremembers
  exact hremembers.answer_eq

end Session

/-! ### Checks are made of steps -/

namespace Check

variable {α β : Type}

theorem run_bind (s : Session) (c : Check α) (f : α → Check β) :
    (c >>= f).run s = (f (c.run s).1).run (c.run s).2 := rfl

theorem run_get_bind (s : Session) (f : Session → Check α) :
    (MonadState.get >>= f).run s = (f s).run s := rfl

/-- What the check of a reference makes of the answer of the resolver. -/
def judge (expected : TypeId) (r : Reference) (expectation : Expectation) (answer : Relation) :
    Check Bool := do
  let s ← get
  let expectedName := s.store.name expected
  let actualName := s.store.name r.type
  if answer.isCompatible then
    if answer.needsConversion then reportConversion r.location expectedName actualName
    return true
  else
    let kind := (s.store.resolvedKind expected).1
    let complaint? := referenceComplaint? kind expectation expectedName actualName answer
    modify (·.emitAll r.location complaint?.toList)
    return false

/-- A reference is judged by the answer about the two types, once their declarations are checked. -/
theorem reference_eq (expected : TypeId) (r : Reference) (expectation : Expectation) :
    reference expected r expectation = (do
      let _ ← declaration expected
      let _ ← declaration r.type
      let answer ← relation expected r.type false r.isStringElement
      judge expected r expectation answer) := rfl

/-- The check takes every session from state to state by steps. -/
def Stepping (c : Check α) : Prop := ∀ s, Session.Steps s (c.run s).2

namespace Stepping

theorem pure (a : α) : Stepping (Pure.pure a) := fun _ => .refl

theorem get : Stepping MonadState.get := fun _ => .refl

theorem bind {c : Check α} {f : α → Check β} (hc : Stepping c) (hf : ∀ a, Stepping (f a)) :
    Stepping (c >>= f) := by
  intro s
  rw [run_bind]
  exact (hc s).trans (hf _ _)

theorem emit (d : Diagnostic) : Stepping (modify fun s => s.emit d) := fun _ => .single (.emit d)

theorem emitAll (location : Location) (complaints : List Complaint) :
    Stepping (modify fun s => s.emitAll location complaints) :=
  fun s => s.steps_emitAll location complaints

theorem report (location : Location) (m : Message) (args : List String) :
    Stepping (Check.report location m args) := emit _

theorem stamp (id : TypeId) (stamp : CheckStamp) : Stepping (Check.stamp id stamp) :=
  fun _ => .single (.stamp id stamp)

theorem declaration (id : TypeId) : Stepping (Check.declaration id) := by
  unfold Check.declaration
  refine get.bind fun s => ?_
  dsimp only
  split
  · exact pure true
  split
  · exact pure _
  · exact (emitAll _ _).bind fun _ => (stamp _ _).bind fun _ => pure _

theorem declarations (ids : List TypeId) : Stepping (Check.declarations ids) := by
  induction ids with
  | nil => exact pure 0
  | cons id rest ih => exact (declaration id).bind fun _ => ih.bind fun _ => pure _

theorem allDeclarations : Stepping Check.allDeclarations := get.bind fun _ => declarations _

theorem relation (expected actual : TypeId) (x y : Bool) :
    Stepping (Check.relation expected actual x y) := fun _ => .single (.ask expected actual x y)

theorem reportConversion (location : Location) (expected actual : String) :
    Stepping (Check.reportConversion location expected actual) := by
  unfold Check.reportConversion
  refine get.bind fun s => ?_
  cases s.options.typeCompatibility with
  | ignore => exact pure ()
  | warning => exact emit _
  | error => exact emit _

theorem judge (expected : TypeId) (r : Reference) (expectation : Expectation) (answer : Relation) :
    Stepping (Check.judge expected r expectation answer) := by
  unfold Check.judge
  refine get.bind fun s => ?_
  dsimp only
  split
  · split
    · exact (reportConversion _ _ _).bind fun _ => pure true
    · exact pure true
  · exact (emitAll _ _).bind fun _ => pure false

theorem reference (expected : TypeId) (r : Reference) (expectation : Expectation) :
    Stepping (Check.reference expected r expectation) := by
  rw [Check.reference_eq]
  exact (declaration expected).bind fun _ => (declaration r.type).bind fun _ =>
    (relation expected r.type false r.isStringElement).bind fun answer =>
      judge expected r expectation answer

theorem expression (location : Location) (expected : TypeId) (result : Kind) :
    Stepping (Check.expression location expected result) := by
  unfold Check.expression
  refine get.bind fun s => ?_
  split
  · exact pure true
  · exact (report _ _ _).bind fun _ => pure false

/-- Keeping the findings of a walk that comes back where it was started is reporting them. -/
theorem keep {location : Location} {walk : Nesting → Findings × Nesting}
    (hwalk : ∀ n, (walk n).2 = n) : Stepping (Check.keep location walk) := by
  intro s
  let reported := s.emitAll location (walk s.nesting).1.complaints
  have hsteps : s.Steps reported := s.steps_emitAll _ _
  have hrun : ((Check.keep location walk).run s).2 = reported := calc
    _ = { reported with nesting := (walk s.nesting).2 } := rfl
    _ = reported := by rw [hwalk, ← hsteps.sameSetting.nesting]
  rw [hrun]
  exact hsteps

theorem value (location : Location) (type : TypeId) (v : Value) :
    Stepping (Check.value location type v) :=
  get.bind fun s => keep fun n => s.store.checkValue_nesting type n v

theorem template (location : Location) (type : TypeId) (t : Template) (isOptional : Bool) :
    Stepping (Check.template location type t isOptional) :=
  get.bind fun s => keep fun n => s.store.checkTemplate_nesting type isOptional n t

theorem assignment (signature : String) (parameters : List Parameter) (side : RedirectSide)
    (a : ParameterAssignment) : Stepping (Check.assignment signature parameters side a) := by
  unfold Check.assignment
  split
  · exact report _ _ _
  split
  · exact report _ _ _
  · refine get.bind fun s => ?_
    split
    · exact (reference _ _ _).bind fun _ => pure ()
    · exact pure ()

theorem assignments (signature : String) (parameters : List Parameter) (side : RedirectSide)
    (given as : List ParameterAssignment) :
    Stepping (Check.assignments signature parameters side given as) := by
  induction as generalizing given with
  | nil => exact pure ()
  | cons a rest ih =>
    rw [Check.assignments]
    split
    · exact (report _ _ _).bind fun _ => (report _ _ _).bind fun _ => ih given
    · exact (assignment signature parameters side a).bind fun _ => ih (a :: given)

theorem redirectParts (signature : String) (d : Declaration) (side : RedirectSide)
    (r : Redirect) : Stepping (Check.redirectParts signature d side r) := by
  unfold Check.redirectParts
  split
  · exact report _ _ _
  split
  · exact report _ _ _
  · exact assignments _ _ _ _ _

theorem redirect (signature : TypeId) (r : Redirect) (side : RedirectSide) :
    Stepping (Check.redirect signature r side) := by
  unfold Check.redirect
  refine get.bind fun s => ?_
  split
  · exact pure _
  dsimp only
  split
  · exact pure _
  split
  · exact pure _
  · exact (redirectParts _ _ _ _).bind fun _ => get.bind fun _ => pure _

end Stepping

end Check

end TestSpec
