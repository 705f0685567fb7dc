import TestSpec.Proofs.Relation.Limits
import TestSpec.Proofs.Session.Steps

/-!
# What a session keeps in balance

Whatever is asked of a session, it goes from state to state by few sorts of **moves**: the
steps that checks are made of (`Session.Step`), going to another pass, and switching strict
mode.

Each move **continues** the session: it appends to the diagnostics and counts the errors that it
appends, leaves the nesting as it is, and leaves the path of the resolver empty where it was.
Hence so does every run of calls, and a session that began with nothing reported is in balance
after each of them.  Main statement: `Session.balanced_of_calls`.
-/

namespace TestSpec

namespace Session

/-- What a session does at once. -/
inductive Move (s : Session) : Session → Prop where
  | emit (d : Diagnostic) : Move s (s.emit d)
  | stamp (id : TypeId) (stamp : CheckStamp) :
      Move s { s with store := s.store.setStamp id stamp }
  | ask (expected actual : TypeId) (x y : Bool) :
      Move s { s with resolver := (s.resolver.query s.store s.pass s.options.strictStructural
        expected actual x y).2 }
  | setPass (pass : Pass) : Move s (s.setPass pass)
  | setStrict (isStrict : Bool) : Move s (s.setStrict isStrict)

/-- The session gets from one state to the other by moves. -/
abbrev Moves : Session → Session → Prop := Relation.ReflTransGen Move

variable {s t u : Session}

theorem Step.move (h : s.Step t) : s.Move t := by
  cases h with
  | emit d => exact .emit d
  | stamp id stamp => exact .stamp id stamp
  | ask expected actual x y => exact .ask expected actual x y

theorem Steps.moves (h : s.Steps t) : s.Moves t :=
  Relation.ReflTransGen.mono (fun _ _ hstep => hstep.move) s t h

/-! ### What a move keeps -/

/-- The second state has all that was reported in the first, the errors reported since are
counted, and no walk is under way in it unless one was in the first. -/
structure Continues (s t : Session) : Prop where
  reported : ∃ ds, t.collector.toList = s.collector.toList ++ ds ∧
    t.errorCount = s.errorCount + ds.countP Diagnostic.isError
  nesting : t.nesting = s.nesting
  path : s.resolver.guard.path = ∅ → t.resolver.guard.path = ∅

namespace Continues

theorem refl (s : Session) : s.Continues s := ⟨⟨[], by simp⟩, rfl, id⟩

theorem trans (hst : s.Continues t) (htu : t.Continues u) : s.Continues u := by
  obtain ⟨ds, hds, hcount⟩ := hst.reported
  obtain ⟨es, hes, hcount'⟩ := htu.reported
  refine ⟨⟨ds ++ es, ?_, ?_⟩, htu.nesting.trans hst.nesting, htu.path ∘ hst.path⟩
  · rw [hes, hds, List.append_assoc]
  · rw [hcount', hcount, List.countP_append, Nat.add_assoc]

/-- Where nothing is reported and the nesting stays, only the resolver matters. -/
theorem of_silent (hcollector : t.collector = s.collector) (hcount : t.errorCount = s.errorCount)
    (hnesting : t.nesting = s.nesting)
    (hpath : s.resolver.guard.path = ∅ → t.resolver.guard.path = ∅) : s.Continues t :=
  ⟨⟨[], by simp [hcollector, hcount]⟩, hnesting, hpath⟩

end Continues

end Session

/-- A query ends with an empty path: it begins with one, and takes off what it puts on. -/
theorem Resolver.path_query {r : Resolver} (h : r.guard.path = ∅) (store : Store) (pass : Pass)
    (isStrict : Bool) (expected actual : TypeId) (x y : Bool) :
    (r.query store pass isStrict expected actual x y).2.guard.path = ∅ := by
  rw [query_eq]
  split
  · exact h
  · exact (r.compute_keepsPlace store _).path

namespace Session

variable {s t : Session}

theorem Move.continues (h : s.Move t) : s.Continues t := by
  cases h with
  | emit d => exact ⟨⟨[d], Collector.toList_report _ _, s.errorCount_emit d⟩, rfl, id⟩
  | stamp => exact .of_silent rfl rfl rfl id
  | ask => exact .of_silent rfl rfl rfl fun hpath => Resolver.path_query hpath _ _ _ _ _ _ _
  | setPass => exact .of_silent rfl rfl rfl id
  | setStrict isStrict =>
    refine .of_silent rfl rfl rfl fun hpath => ?_
    -- forgetting the answers leaves the guard alone
    rw [Session.setStrict]
    dsimp only
    split <;> exact hpath

theorem Moves.continues (h : s.Moves t) : s.Continues t := by
  induction h with
  | refl => exact .refl s
  | tail _ hmove ih => exact ih.trans hmove.continues

end Session

/-! ### Calls -/

/-- What may be asked of a session, whatever comes before and after. -/
inductive Call where
  | declarations
  | declaration (id : TypeId)
  | reference (expected : TypeId) (r : Check.Reference) (expectation : Check.Expectation)
  | expression (location : Location) (expected : TypeId) (result : Kind)
  | value (location : Location) (type : TypeId) (v : Value)
  | template (location : Location) (type : TypeId) (t : Template) (isOptional : Bool)
  | redirect (signature : TypeId) (r : Redirect) (side : RedirectSide)
  | pass (pass : Pass)
  | strict (isStrict : Bool)

namespace Session

/-- The session after a call. -/
def afterCall (s : Session) : Call → Session
  | .declarations => (Check.allDeclarations.run s).2
  | .declaration id => ((Check.declaration id).run s).2
  | .reference expected r expectation => ((Check.reference expected r expectation).run s).2
  | .expression location expected result => ((Check.expression location expected result).run s).2
  | .value location type v => ((Check.value location type v).run s).2
  | .template location type t isOptional =>
    ((Check.template location type t isOptional).run s).2
  | .redirect signature r side => ((Check.redirect signature r side).run s).2
  | .pass pass => s.setPass pass
  | .strict isStrict => s.setStrict isStrict

theorem moves_afterCall (s : Session) (c : Call) : s.Moves (s.afterCall c) := by
  cases c with
  | declarations => exact (Check.Stepping.allDeclarations s).moves
  | declaration id => exact (Check.Stepping.declaration id s).moves
  | reference expected r expectation =>
    exact (Check.Stepping.reference expected r expectation s).moves
  | expression location expected result =>
    exact (Check.Stepping.expression location expected result s).moves
  | value location type v => exact (Check.Stepping.value location type v s).moves
  | template location type t isOptional =>
    exact (Check.Stepping.template location type t isOptional s).moves
  | redirect signature r side => exact (Check.Stepping.redirect signature r side s).moves
  | pass pass => exact .single (.setPass pass)
  | strict isStrict => exact .single (.setStrict isStrict)

theorem moves_calls (s : Session) (calls : List Call) : s.Moves (calls.foldl afterCall s) := by
  induction calls generalizing s with
  | nil => exact .refl
  | cons c rest ih => exact (s.moves_afterCall c).trans (ih _)

/-- Whatever is asked of a session that began with nothing reported, after each call: the errors
among the diagnostics are counted, what was reported before stands at their front, and neither
a walk nor a query has left anything of its place behind. -/
theorem balanced_of_calls (store : Store) (options : Options) (pass : Pass) (calls : List Call)
    (c : Call) :
    let s := calls.foldl afterCall { store, options, pass }
    let t := s.afterCall c
    t.errorCount = t.collector.errorCount ∧ s.collector.toList <+: t.collector.toList ∧
      t.nesting.depth = 0 ∧ t.resolver.guard.path = ∅ := by
  intro s t
  have hbefore : Continues { store, options, pass } s := (moves_calls _ calls).continues
  have hcall : s.Continues t := (s.moves_afterCall c).continues
  have hall := hbefore.trans hcall
  obtain ⟨ds, hds, hcount⟩ := hall.reported
  obtain ⟨es, hes, -⟩ := hcall.reported
  refine ⟨?_, ⟨es, hes.symm⟩, ?_, hall.path rfl⟩
  · rw [Collector.errorCount, hds, hcount]
    simp [Collector.toList]
  · rw [hall.nesting]

end Session

end TestSpec
