import Mathlib.Data.List.Nodup
import TestSpec.Proofs.Session.Balance

/-!
# What a redirect in order promises

Whether a redirect is in order is told by the count of errors alone: it is if its check has
reported none.  A check that reports none is **quiet**, and a sequence of checks is quiet
exactly if each of them is, since the count never falls (`Check.quiet_bind_iff`).  So a
redirect in order can be taken apart, assignment by assignment: each names another parameter
(`Check.distinct_of_quiet_assignments`), and each is checked quietly after those in front of it
(`Check.quiet_assignment_of_split`), so that its parameter is one of the signature and carries
values on the side, and so that nothing was found wrong with the types.

The table of such a redirect is faithful: a slot for each parameter in order, filled exactly
by the one assignment that names the parameter (`Check.redirect_isFaithful`).  As to types,
quiet is less than compatible.  Nothing is reported where the variable is of a port or a
signature, and so a redirect is in order whose types are not compatible
(`Check.redirect_true_port`); everywhere else the types are (`Check.compatible_of_redirect`).
-/

namespace TestSpec

/-! ### Sides and directions -/

/-- On a side of the redirect, parameters of this direction carry values. -/
def RedirectSide.Carries : RedirectSide → Direction → Prop
  | .reply, d => d = .outgoing ∨ d = .both
  | .call, d => d = .incoming ∨ d = .both

theorem RedirectSide.complaint?_eq_none_iff {side : RedirectSide} {d : Direction} :
    side.complaint? d = none ↔ side.Carries d := by
  cases side <;> cases d <;> simp [complaint?, Carries, Direction.isOutgoing, Direction.isIncoming]

theorem RedirectSide.category_of_complaint? {side : RedirectSide} {d : Direction} {m : Message}
    (h : side.complaint? d = some m) : m.category = .error := by
  cases side <;> cases d <;> cases h <;> rfl

/-! ### The table -/

/-- The slot is that of the parameter: it has its name, it holds the target of the one assignment
that names the parameter, if there is exactly one, and if it holds any the parameter carries
values on the side. -/
structure VariableEntry.Represents (side : RedirectSide) (assignments : List ParameterAssignment)
    (p : Parameter) (e : VariableEntry) : Prop where
  name : e.parameter = p.name
  target : ∀ x, e.target = some x ↔
    ∃ a, (assignments.filter fun a => a.parameter == p.name) = [a] ∧ a.target = x
  carries : e.target.isSome = true → side.Carries p.direction

/-- The slots are those of the parameters in order, and each assignment is in one of them. -/
structure IsFaithfulTable (side : RedirectSide) (parameters : List Parameter)
    (assignments : List ParameterAssignment) (entries : List VariableEntry) : Prop where
  slots : List.Forall₂ (VariableEntry.Represents side assignments) parameters entries
  complete : ∀ a ∈ assignments, ⟨a.parameter, some a.target⟩ ∈ entries

section Table

variable {parameters : List Parameter} {assignments : List ParameterAssignment}
  {side : RedirectSide}

/-- Among assignments to distinct parameters, those to one parameter are the first one found. -/
theorem filter_parameter_eq (h : (assignments.map ParameterAssignment.parameter).Nodup)
    (name : String) : (assignments.filter fun a => a.parameter == name) =
      (assignments.find? fun a => a.parameter == name).toList := by
  induction assignments with
  | nil => rfl
  | cons a rest ih =>
    rw [List.map_cons, List.nodup_cons] at h
    by_cases ha : a.parameter = name
    · have hrest : (rest.filter fun b => b.parameter == name) = [] := by
        rw [List.filter_eq_nil_iff]
        intro b hb hname
        have hsame : b.parameter = a.parameter := (beq_iff_eq.mp hname).trans ha.symm
        exact h.1 (hsame ▸ List.mem_map_of_mem hb)
      simp [ha, hrest]
    · simp [ha, ih h.2]

/-- The table of assignments to distinct parameters, each of which carries values on the side, is
faithful. -/
theorem isFaithfulTable_variableTable (hnames : (parameters.map Parameter.name).Nodup)
    (hdistinct : (assignments.map ParameterAssignment.parameter).Nodup)
    (hfound : ∀ a ∈ assignments, ∃ p ∈ parameters, p.name = a.parameter ∧
      side.Carries p.direction) :
    IsFaithfulTable side parameters assignments (variableTable parameters assignments) := by
  constructor
  · rw [variableTable, List.forall₂_map_right_iff, List.forall₂_same]
    intro p hp
    refine ⟨rfl, fun x => ?_, fun hfilled => ?_⟩
    · simp only [filter_parameter_eq hdistinct, Option.map_eq_some_iff,
        Option.toList_eq_singleton_iff]
    · rw [Option.isSome_map, List.find?_isSome] at hfilled
      obtain ⟨a, ha, hname⟩ := hfilled
      obtain ⟨q, hq, hqname, hcarries⟩ := hfound a ha
      have hsame : q.name = p.name := hqname.trans (beq_iff_eq.mp hname)
      rwa [List.inj_on_of_nodup_map hnames hq hp hsame] at hcarries
  · intro a ha
    obtain ⟨p, hp, hname, -⟩ := hfound a ha
    have hone : a ∈ (assignments.find? fun b => b.parameter == p.name).toList := by
      rw [← filter_parameter_eq hdistinct, List.mem_filter, beq_iff_eq]
      exact ⟨ha, hname.symm⟩
    refine List.mem_map.mpr ⟨p, hp, ?_⟩
    rw [Option.mem_toList.mp hone, hname, Option.map_some]

end Table

namespace Session

theorem Steps.errorCount_le {s t : Session} (h : s.Steps t) : s.errorCount ≤ t.errorCount := by
  obtain ⟨ds, -, hcount⟩ := h.moves.continues.reported
  rw [hcount]
  exact Nat.le_add_right _ _

/-- The session in which the check of a reference asks about the two types: their declarations are
checked. -/
def whenCompared (s : Session) (expected actual : TypeId) : Session :=
  ((Check.declaration actual).run ((Check.declaration expected).run s).2).2

/-- The session in which the check of a redirect asks about the types of an assignment: those in
front of it are checked, and the declarations of both types.  The redirect belongs to a type that
leads to the declaration `last`. -/
def whenRedirected (s : Session) (type last : TypeId) (side : RedirectSide)
    (before : List ParameterAssignment) (variableType parameterType : TypeId) : Session :=
  ((Check.assignments (s.store.name type) (s.store.get last).parameters side [] before).run
    s).2.whenCompared variableType parameterType

end Session

/-! ### Quiet checks -/

namespace Check

variable {α β : Type} {s : Session}

/-- The check reports no error. -/
def Quiet (s : Session) (c : Check α) : Prop := (c.run s).2.errorCount = s.errorCount

/-- A sequence of checks reports no error if and only if none of them does. -/
theorem quiet_bind_iff {c : Check α} {f : α → Check β} (hc : Stepping c)
    (hf : ∀ a, Stepping (f a)) :
    Quiet s (c >>= f) ↔ Quiet s c ∧ Quiet (c.run s).2 (f (c.run s).1) := by
  have hfirst := (hc s).errorCount_le
  have hthen := (hf (c.run s).1 (c.run s).2).errorCount_le
  rw [Quiet, Quiet, Quiet, run_bind]
  omega

theorem quiet_report_iff {location : Location} {m : Message} {args : List String} :
    Quiet s (report location m args) ↔ m.category ≠ .error := by
  have hcount : ((report location m args).run s).2.errorCount = s.errorCount +
      [Diagnostic.ofMessage location m args].countP Diagnostic.isError := s.errorCount_emit _
  have hcategory : (Diagnostic.ofMessage location m args).isError = (m.category == .error) := rfl
  rw [Quiet, hcount, List.countP_singleton, hcategory]
  by_cases hm : m.category = .error <;> simp [hm]

/-! ### Quiet references -/

/-- A reference of an incompatible type is complained about, except where a port or a signature is
expected, and the complaint is an error. -/
theorem exists_referenceComplaint {kind : Kind} (hport : kind ≠ .port)
    (hsignature : kind ≠ .signature) (expectation : Expectation) (expected actual : String)
    (answer : Relation) : ∃ c, referenceComplaint? kind expectation expected actual answer = some c ∧
      c.isError = true := by
  rw [referenceComplaint?, if_neg hport, if_neg hsignature]
  split
  · exact ⟨_, rfl, rfl⟩
  split
  · exact ⟨_, rfl, rfl⟩
  · exact ⟨_, rfl, rfl⟩

/-- A judgement reports no error only if the types are compatible, or a port or a signature is
expected. -/
theorem compatible_of_quiet_judge {expected : TypeId} {r : Reference} {expectation : Expectation}
    {answer : Relation} (h : Quiet s (judge expected r expectation answer)) :
    answer.isCompatible = true ∨ (s.store.resolvedKind expected).1 = .port ∨
      (s.store.resolvedKind expected).1 = .signature := by
  by_cases hcompatible : answer.isCompatible = true
  · exact .inl hcompatible
  right
  by_contra hkind
  rw [not_or] at hkind
  obtain ⟨c, hc, herror⟩ := exists_referenceComplaint hkind.1 hkind.2 expectation
    (s.store.name expected) (s.store.name r.type) answer
  have hrun : ((judge expected r expectation answer).run s).2 = s.emitAll r.location [c] := by
    rw [judge, run_get_bind]
    simp only [if_neg hcompatible, hc]
    rfl
  have hcategory : (c.diagnostic r.location).isError = true := herror
  rw [Quiet, hrun, s.errorCount_emitAll] at h
  simp [hcategory] at h

variable {expected actual : TypeId} {location : Location} {x : Bool} {expectation : Expectation}

/-- The check of a reference judges it by the answer about the two types. -/
theorem reference_run (s : Session) (expected actual : TypeId) (location : Location) (x : Bool)
    (expectation : Expectation) :
    (reference expected ⟨location, actual, x⟩ expectation).run s =
      (judge expected ⟨location, actual, x⟩ expectation
        ((s.whenCompared expected actual).answer expected actual false x)).run
      ((relation expected actual false x).run (s.whenCompared expected actual)).2 := by
  rw [reference_eq, run_bind, run_bind, run_bind, Session.answer, Session.whenCompared]

/-- The check of a reference reports no error only if the types are compatible when it asks, or a
port or a signature is expected. -/
theorem compatible_of_quiet_reference
    (h : Quiet s (reference expected ⟨location, actual, x⟩ expectation)) :
    ((s.whenCompared expected actual).answer expected actual false x).isCompatible = true ∨
      (s.store.resolvedKind expected).1 = .port ∨
      (s.store.resolvedKind expected).1 = .signature := by
  let u := s.whenCompared expected actual
  let asked := ((relation expected actual false x).run u).2
  let judgement := judge expected ⟨location, actual, x⟩ expectation
    (u.answer expected actual false x)
  have hrun : (reference expected ⟨location, actual, x⟩ expectation).run s = judgement.run asked :=
    reference_run ..
  have hsteps : s.Steps asked := (Stepping.declaration expected s).trans
    ((Stepping.declaration actual _).trans (Stepping.relation expected actual false x u))
  have hquiet : Quiet asked judgement := by
    have hlater : asked.Steps (judgement.run asked).2 := Stepping.judge _ _ _ _ asked
    rw [Quiet, hrun] at h
    exact Nat.le_antisymm (Nat.le_trans (Nat.le_of_eq h) hsteps.errorCount_le) hlater.errorCount_le
  have hkind := Store.resolvedKind_congr hsteps.sameSetting.store expected
  rw [← hkind]
  exact compatible_of_quiet_judge hquiet

/-! ### Quiet assignments -/

variable {signature : String} {parameters : List Parameter} {side : RedirectSide}
  {a : ParameterAssignment}

/-- An assignment about which no error is reported names a parameter that carries values. -/
theorem carries_of_quiet_assignment (h : Quiet s (assignment signature parameters side a)) :
    ∃ p, (parameters.find? fun p => p.name == a.parameter) = some p ∧
      side.Carries p.direction := by
  rw [assignment] at h
  split at h
  · exact absurd rfl (quiet_report_iff.mp h)
  rename_i p hp
  split at h
  · rename_i m hm
    exact absurd (side.category_of_complaint? hm) (quiet_report_iff.mp h)
  · rename_i hnone
    exact ⟨p, hp, RedirectSide.complaint?_eq_none_iff.mp hnone⟩

/-- An assignment about which no error is reported, and of which both types are known: the two are
compatible when its check asks, or the variable is of a port or a signature; and the check goes on
from there. -/
theorem compatible_of_quiet_assignment (h : Quiet s (assignment signature parameters side a))
    {p : Parameter} {variableType type : TypeId}
    (hp : (parameters.find? fun p => p.name == a.parameter) = some p)
    (hvariable : a.variableType = some variableType)
    (htype : s.store.resolveRef? p.type = some type) :
    let u := s.whenCompared variableType type
    ((u.answer variableType type false false).isCompatible = true ∨
        (s.store.resolvedKind variableType).1 = .port ∨
        (s.store.resolvedKind variableType).1 = .signature) ∧
      ((relation variableType type false false).run u).2.Steps
        ((assignment signature parameters side a).run s).2 := by
  obtain ⟨q, hq, hcarries⟩ := carries_of_quiet_assignment h
  obtain rfl : q = p := Option.some.inj (hq.symm.trans hp)
  have hnone := RedirectSide.complaint?_eq_none_iff.mpr hcarries
  have hrun : ((assignment signature parameters side a).run s).2 =
      ((reference variableType ⟨a.location, type, false⟩ .value).run s).2 := by
    rw [assignment, hp]
    simp only [hnone]
    rw [run_get_bind]
    simp only [hvariable, htype]
    rw [run_bind, StateT.run_pure]
    rfl
  rw [Quiet, hrun] at h
  rw [hrun]
  refine ⟨compatible_of_quiet_reference h, ?_⟩
  rw [reference_run]
  exact Stepping.judge _ _ _ _ _

/-- Where no earlier assignment names its parameter, the assignment is checked, and then the
rest. -/
theorem assignments_cons_of_new {given : List ParameterAssignment}
    (hnew : ∀ b ∈ given, b.parameter ≠ a.parameter) (rest : List ParameterAssignment) :
    assignments signature parameters side given (a :: rest) =
      assignment signature parameters side a >>= fun _ =>
        assignments signature parameters side (a :: given) rest := by
  have hnone : (given.find? fun b => b.parameter == a.parameter) = none := by
    rw [List.find?_eq_none]
    intro b hb hname
    exact hnew b hb (beq_iff_eq.mp hname)
  rw [assignments, hnone]

/-- A duplicate is an error, whatever comes after it. -/
theorem new_of_quiet_assignments {given rest : List ParameterAssignment}
    (h : Quiet s (assignments signature parameters side given (a :: rest))) :
    ∀ b ∈ given, b.parameter ≠ a.parameter := by
  rw [assignments] at h
  split at h
  · rw [quiet_bind_iff (Stepping.report _ _ _)
      fun _ => (Stepping.report _ _ _).bind fun _ => Stepping.assignments _ _ _ _ _] at h
    exact absurd rfl (quiet_report_iff.mp h.1)
  · rename_i hnone
    intro b hb hname
    exact List.find?_eq_none.mp hnone b hb (beq_iff_eq.mpr hname)

/-- The first of quiet assignments is quiet, and the rest are quiet after it. -/
theorem quiet_of_quiet_assignments {given rest : List ParameterAssignment}
    (h : Quiet s (assignments signature parameters side given (a :: rest))) :
    Quiet s (assignment signature parameters side a) ∧
      Quiet ((assignment signature parameters side a).run s).2
        (assignments signature parameters side (a :: given) rest) := by
  rw [assignments_cons_of_new (new_of_quiet_assignments h)] at h
  exact (quiet_bind_iff (Stepping.assignment _ _ _ _)
    fun _ => Stepping.assignments _ _ _ _ _).mp h

/-- Quiet assignments name distinct parameters, other than those that were given before. -/
theorem distinct_of_quiet_assignments {given as : List ParameterAssignment}
    (h : Quiet s (assignments signature parameters side given as)) :
    (as.map ParameterAssignment.parameter).Nodup ∧
      ∀ a ∈ as, ∀ b ∈ given, b.parameter ≠ a.parameter := by
  induction as generalizing s given with
  | nil => exact ⟨List.nodup_nil, nofun⟩
  | cons a rest ih =>
    obtain ⟨hdistinct, hothers⟩ := ih (quiet_of_quiet_assignments h).2
    rw [List.map_cons, List.nodup_cons, List.forall_mem_cons]
    refine ⟨⟨fun hmem => ?_, hdistinct⟩, new_of_quiet_assignments h, fun b hb c hc => ?_⟩
    · obtain ⟨b, hb, hname⟩ := List.mem_map.mp hmem
      exact hothers b hb a List.mem_cons_self hname.symm
    · exact hothers b hb c (List.mem_cons_of_mem _ hc)

/-- Each of quiet assignments is checked quietly after those in front of it, and the check goes on
from there. -/
theorem quiet_assignment_of_split {given before after : List ParameterAssignment}
    (h : Quiet s (assignments signature parameters side given (before ++ a :: after))) :
    let u := ((assignments signature parameters side given before).run s).2
    Quiet u (assignment signature parameters side a) ∧
      ((assignment signature parameters side a).run u).2.Steps
        ((assignments signature parameters side given (before ++ a :: after)).run s).2 := by
  induction before generalizing s given with
  | nil =>
    rw [List.nil_append] at h ⊢
    rw [assignments_cons_of_new (new_of_quiet_assignments h)]
    exact ⟨(quiet_of_quiet_assignments h).1, Stepping.assignments _ _ _ _ _ _⟩
  | cons first before ih =>
    rw [List.cons_append] at h ⊢
    have hnew := new_of_quiet_assignments h
    rw [assignments_cons_of_new hnew, assignments_cons_of_new hnew]
    exact ih (quiet_of_quiet_assignments h).2

/-! ### Redirects -/

/-- The parts of a redirect are checked quietly if and only if it belongs to a signature with
parameters, and its assignments are checked quietly. -/
theorem quiet_redirectParts_iff {d : Declaration} {r : Redirect} :
    Quiet s (redirectParts signature d side r) ↔
      d.kind = .signature ∧ d.parameters ≠ [] ∧
        Quiet s (assignments signature d.parameters side [] r.assignments) := by
  rw [redirectParts]
  by_cases hkind : d.kind = .signature
  · by_cases hnone : d.parameters = []
    · simp [hkind, hnone, quiet_report_iff, Message.category]
    · simp [hkind, hnone]
  · simp [hkind, quiet_report_iff, Message.category]

/-- The check of a redirect that is due, of a type that is erroneous or leads nowhere: nothing is
done but to claim the check. -/
theorem redirect_of_isSilenced {type : TypeId} {r : Redirect}
    (hdue : r.stamp.needsCheck s.pass = true) (h : s.store.isSilenced type = true) :
    (redirect type r side).run s =
      ((true, { r with stamp := ⟨some s.pass, false⟩, entries := none }), s) := by
  rw [redirect, run_get_bind, CheckStamp.claim?_of_needsCheck hdue]
  dsimp only
  cases herroneous : s.store.isErroneous type with
  | true =>
    rw [if_pos rfl]
    rfl
  | false =>
    rw [if_neg Bool.false_ne_true]
    rw [Store.isSilenced, herroneous, Bool.false_or, Option.isNone_iff_eq_none] at h
    rw [h]
    rfl

/-- The check of a redirect that is due, of a type that is not erroneous and leads to a declaration:
it is in order if its parts are checked quietly, and has a table if it is in order. -/
theorem redirect_of_due {type last : TypeId} {r : Redirect} {t : Session}
    (hdue : r.stamp.needsCheck s.pass = true) (hlast : s.store.resolveAlias? type = some last)
    (hsound : s.store.isErroneous type = false)
    (ht : ((redirectParts (s.store.name type) (s.store.get last) side r).run s).2 = t) :
    (redirect type r side).run s =
      if t.errorCount = s.errorCount then
        ((true, { r with
          stamp := ⟨some s.pass, false⟩
          entries := some (variableTable (s.store.get last).parameters r.assignments) }), t)
      else ((false, { r with stamp := ⟨some s.pass, true⟩, entries := none }), t) := by
  rw [redirect, run_get_bind, CheckStamp.claim?_of_needsCheck hdue]
  simp only [hsound, hlast, Bool.false_eq_true, if_false]
  rw [run_bind, run_get_bind, ht]
  by_cases hquiet : t.errorCount = s.errorCount
  · simp only [hquiet, decide_true, Bool.not_true, if_true]
    rfl
  · simp only [hquiet, decide_false, Bool.not_false, if_false]
    rfl

/-- The check of a redirect that the pass has made before answers the same and does nothing. -/
theorem redirect_of_checked {type : TypeId} {r : Redirect} (h : r.stamp.claim? s.pass = none) :
    (redirect type r side).run s = ((!r.stamp.erroneous, r), s) := by
  rw [redirect, run_get_bind]
  simp only [h]
  rfl

/-- Each of the assignments of a redirect that is checked quietly names a parameter that carries
values. -/
theorem exists_parameter_of_quiet {d : Declaration} {r : Redirect}
    (h : Quiet s (redirectParts signature d side r)) (ha : a ∈ r.assignments) :
    ∃ p ∈ d.parameters, p.name = a.parameter ∧ side.Carries p.direction := by
  obtain ⟨before, after, hsplit⟩ := List.append_of_mem ha
  have hassignments := (quiet_redirectParts_iff.mp h).2.2
  rw [hsplit] at hassignments
  obtain ⟨p, hp, hcarries⟩ :=
    carries_of_quiet_assignment (quiet_assignment_of_split hassignments).1
  have hname : p.name = a.parameter := by simpa using List.find?_some hp
  exact ⟨p, List.mem_of_find?_eq_some hp, hname, hcarries⟩

/-- **A redirect in order has a faithful table.**  Let the check of a redirect be due, for a type
that is not erroneous and leads to a declaration whose parameters have distinct names.  If the check
finds the redirect in order, the redirect has a table of one slot for each parameter, faithful to its
assignments on the side; if not, it has no table and is marked as erroneous.  Any check of it that
comes later in the pass answers the same, reports nothing and leaves the redirect as it is. -/
theorem redirect_isFaithful {type last : TypeId} {r : Redirect} (side : RedirectSide)
    (hdue : r.stamp.needsCheck s.pass = true) (hlast : s.store.resolveAlias? type = some last)
    (hsound : s.store.isErroneous type = false)
    (hnames : ((s.store.get last).parameters.map Parameter.name).Nodup) :
    let after := (redirect type r side).run s
    (after.1.1 = true → ∃ entries, after.1.2.entries = some entries ∧
        IsFaithfulTable side (s.store.get last).parameters r.assignments entries) ∧
      (after.1.1 = false → after.1.2.entries = none ∧ after.1.2.stamp.erroneous = true) ∧
      ∀ (t : Session) (type' : TypeId) (side' : RedirectSide), t.pass = s.pass →
        (redirect type' after.1.2 side').run t = (after.1, t) := by
  have hclaimed (t : Session) (ht : t.pass = s.pass) (erroneous : Bool) :
      (CheckStamp.mk (some s.pass) erroneous).claim? t.pass = none := by
    rw [ht]
    exact CheckStamp.claim?_same_pass s.pass erroneous
  rw [redirect_of_due hdue hlast hsound rfl]
  split
  · rename_i hquiet
    refine ⟨fun _ => ⟨_, rfl, ?_⟩, nofun, fun t type' side' ht => ?_⟩
    · have hdistinct := distinct_of_quiet_assignments (quiet_redirectParts_iff.mp hquiet).2.2
      exact isFaithfulTable_variableTable hnames hdistinct.1
        fun a ha => exists_parameter_of_quiet hquiet ha
    · exact redirect_of_checked (hclaimed t ht false)
  · refine ⟨nofun, fun _ => ⟨rfl, rfl⟩, fun t type' side' ht => ?_⟩
    exact redirect_of_checked (hclaimed t ht true)

end Check

/-- A session over a signature with a parameter of each direction. -/
def Session.threeParameters : Session where
  store := ⟨#[
    { name := "integer", kind := .integer, isBuiltin := true },
    { name := "boolean", kind := .boolean, isBuiltin := true },
    { name := "Request", kind := .signature,
      parameters := [⟨"id", .name "integer", .incoming⟩, ⟨"code", .name "integer", .outgoing⟩,
        ⟨"flag", .name "boolean", .both⟩] }]⟩
  pass := 1

/-- A redirect that assigns each of the parameters to a variable of its name, of a type. -/
def Redirect.ofNames (targets : List (String × TypeId)) : Redirect where
  location := {}
  assignments := targets.map fun x =>
    { parameter := x.1, target := x.1, variableType := some x.2, location := {} }

namespace Check

/-- On the side of a reply the parameters that carry values back may be redirected, in any order;
the one that carries a value in may not. -/
theorem redirect_isFaithful_threeParameters :
    let reply := (redirect 2 (.ofNames [("flag", 1), ("code", 0)]) .reply).run .threeParameters
    let wrong := (redirect 2 (.ofNames [("flag", 1), ("id", 0)]) .reply).run .threeParameters
    (reply.1.1 = true ∧ ∃ entries, reply.1.2.entries = some entries ∧
      IsFaithfulTable .reply (Session.threeParameters.store.get 2).parameters
        (Redirect.ofNames [("flag", 1), ("code", 0)]).assignments entries) ∧
      (wrong.1.1 = false ∧ wrong.1.2.entries = none) ∧
      (redirect 2 reply.1.2 .call).run reply.2 = (reply.1, reply.2) := by
  intro reply wrong
  have hlast : Session.threeParameters.store.resolveAlias? 2 = some 2 := by decide
  have hsound : Session.threeParameters.store.isErroneous 2 = false := by decide
  have hnames : ((Session.threeParameters.store.get 2).parameters.map Parameter.name).Nodup := by
    decide
  have hdue (targets : List (String × TypeId)) :
      (Redirect.ofNames targets).stamp.needsCheck Session.threeParameters.pass = true := rfl
  have hreply : reply.1.1 = true := by decide
  have hwrong : wrong.1.1 = false := by decide
  obtain ⟨hfaithful, -, hagain⟩ := redirect_isFaithful .reply (hdue _) hlast hsound hnames
  obtain ⟨-, hnone, -⟩ := redirect_isFaithful .reply (hdue _) hlast hsound hnames
  exact ⟨⟨hreply, hfaithful hreply⟩, ⟨hwrong, (hnone hwrong).1⟩, hagain reply.2 2 .call rfl⟩

/-- The table has the slots in the order of the parameters. -/
example : ((redirect 2 (.ofNames [("flag", 1), ("code", 0)]) .reply).run .threeParameters).1.2.entries =
    some [⟨"id", none⟩, ⟨"code", some "code"⟩, ⟨"flag", some "flag"⟩] := by decide

/-! ### Types -/

variable {s : Session} {side : RedirectSide}

/-- A redirect that gets a table is checked quietly, against the declaration that its type leads
to. -/
theorem exists_last_of_entries {type : TypeId} {r : Redirect}
    (hdue : r.stamp.needsCheck s.pass = true)
    (h : ((redirect type r side).run s).1.2.entries.isSome = true) :
    ∃ last, s.store.resolveAlias? type = some last ∧
      Quiet s (redirectParts (s.store.name type) (s.store.get last) side r) ∧
      ((redirect type r side).run s).2 =
        ((redirectParts (s.store.name type) (s.store.get last) side r).run s).2 := by
  have hsilenced : s.store.isSilenced type = false := by
    by_contra hsilenced
    rw [Bool.not_eq_false] at hsilenced
    rw [redirect_of_isSilenced hdue hsilenced] at h
    cases h
  obtain ⟨hmark, last, hlast⟩ := Store.isSilenced_eq_false_iff.mp hsilenced
  rw [redirect_of_due hdue hlast hmark rfl] at h ⊢
  refine ⟨last, hlast, ?_⟩
  split at h
  · rename_i hquiet
    exact ⟨hquiet, by rw [if_pos hquiet]⟩
  · cases h

/-- **What a redirect in order tells about types.**  Let the check of a redirect be due, and give it
a table.  Take an assignment of which the type of the variable is known, to a parameter whose type
there is.  When the check asks about the two types they are compatible, or the variable is of a port
or a signature; and the session goes on to answer so after the check, if the marks on the two types
are the same. -/
theorem compatible_of_redirect {type : TypeId} {r : Redirect}
    (hdue : r.stamp.needsCheck s.pass = true)
    (hbuilt : ((redirect type r side).run s).1.2.entries.isSome = true) :
    ∃ last, s.store.resolveAlias? type = some last ∧
      ∀ before a rest p variableType parameterType, r.assignments = before ++ a :: rest →
        a.variableType = some variableType →
        (s.store.get last).parameter? a.parameter = some p →
        s.store.resolveRef? p.type = some parameterType →
        let u := s.whenRedirected type last side before variableType parameterType
        let t := ((redirect type r side).run s).2
        ((u.answer variableType parameterType false false).isCompatible = true ∨
          (s.store.resolvedKind variableType).1 = .port ∨
          (s.store.resolvedKind variableType).1 = .signature) ∧
        (t.store.isErroneous variableType = u.store.isErroneous variableType →
          t.store.isErroneous parameterType = u.store.isErroneous parameterType →
          t.answer variableType parameterType false false =
            u.answer variableType parameterType false false) := by
  obtain ⟨last, hlast, hquiet, hafter⟩ := exists_last_of_entries hdue hbuilt
  refine ⟨last, hlast, fun before a rest p variableType parameterType hsplit hvariable hp htype => ?_⟩
  obtain ⟨hkind, hparameters, hassignments⟩ := quiet_redirectParts_iff.mp hquiet
  have hparts : ((redirectParts (s.store.name type) (s.store.get last) side r).run s).2 =
      ((assignments (s.store.name type) (s.store.get last).parameters side [] r.assignments).run
        s).2 := by
    rw [redirectParts]
    simp [hkind, hparameters]
  rw [hafter, hparts]
  rw [hsplit] at hassignments ⊢
  obtain ⟨hassignment, hrest⟩ := quiet_assignment_of_split hassignments
  intro u t
  let v := ((assignments (s.store.name type) (s.store.get last).parameters side [] before).run s).2
  have hsetting : s.SameSetting v := (Stepping.assignments _ _ _ _ _ s).sameSetting
  rw [← Store.resolveRef?_congr hsetting.store] at htype
  rw [← Store.resolvedKind_congr hsetting.store]
  obtain ⟨hcompatible, hasked⟩ := compatible_of_quiet_assignment hassignment hp hvariable htype
  have hsteps : ((relation variableType parameterType false false).run u).2.Steps t :=
    hasked.trans hrest
  exact ⟨hcompatible, hsteps.answer_eq⟩

/-- The number in a reply is redirected to a variable of its type, and the two are compatible after
the check. -/
theorem compatible_of_redirect_threeParameters :
    let after := (redirect 2 (.ofNames [("flag", 1), ("code", 0)]) .reply).run .threeParameters
    after.1.2.entries.isSome = true ∧ (after.2.answer 0 0 false false).isCompatible = true := by
  intro after
  have hbuilt : after.1.2.entries.isSome = true := by decide
  have htwo : Session.threeParameters.store.resolveAlias? 2 = some 2 := by decide
  obtain ⟨last, hlast, h⟩ := compatible_of_redirect rfl hbuilt
  obtain rfl : last = 2 := Option.some.inj (hlast.symm.trans htwo)
  obtain ⟨hasked, hlater⟩ := h [⟨"flag", "flag", some 1, {}⟩] ⟨"code", "code", some 0, {}⟩ []
    ⟨"code", .name "integer", .outgoing⟩ 0 0 rfl rfl rfl rfl
  have hcompatible := hasked.resolve_right (by decide)
  have hsame := hlater rfl rfl
  refine ⟨hbuilt, ?_⟩
  rw [hsame]
  exact hcompatible

end Check

/-- A session over a port type, and a signature that gives a number back. -/
def Session.portAndNumber : Session where
  store := ⟨#[
    { name := "Port", kind := .port },
    { name := "Request", kind := .signature,
      parameters := [⟨"code", .name "integer", .outgoing⟩] },
    { name := "integer", kind := .integer, isBuiltin := true }]⟩
  pass := 1

/-- A number is redirected to a port.  The redirect is found in order and gets its table, though the
two types are not compatible. -/
theorem Check.redirect_true_port :
    let after := (redirect 1 (.ofNames [("code", 0)]) .reply).run .portAndNumber
    after.1.1 = true ∧ after.1.2.entries = some [⟨"code", some "code"⟩] ∧
      Session.portAndNumber.store.resolveRef? (.name "integer") = some 2 ∧
      (after.2.answer 0 2 false false).isCompatible = false := by
  decide

end TestSpec
