import TestSpec.Document.Run
import TestSpec.Document.Schema
import TestSpec.Proofs.Json.Numeric
import TestSpec.Proofs.Session.Emission

/-!
# Checks of a document are independent of each other

All checks of a document are made in one session, one after another.  By then all
declarations have been checked, so each check that the document can name is uniform
(`CheckEntry.action_uniform`): it emits the same whatever was checked before it.

Main statement: `Document.run_checks`, by which the diagnostics of a run are those of the
declarations and then, check by check, what the document emits beyond them if that
check is its only one.  It holds of any list of checks drawn from those of the document.
-/

namespace TestSpec

/-! ### Lists that are read one by one -/

/-- A list is read if each of its entries is. -/
theorem mapM_eq_ok_of_forall {ε α β : Type} {f : α → Except ε β} {g : α → β} {xs : List α}
    (h : ∀ x ∈ xs, f x = .ok (g x)) : xs.mapM f = .ok (xs.map g) := by
  induction xs with
  | nil => rfl
  | cons x rest ih =>
    rw [List.forall_mem_cons] at h
    rw [List.mapM_cons, h.1, ih h.2]
    rfl

/-- Whatever is in a list that was read was read from an entry. -/
theorem exists_of_mem_mapM {ε α β : Type} {f : α → Except ε β} {xs : List α} {ys : List β}
    (h : xs.mapM f = .ok ys) {y : β} (hy : y ∈ ys) : ∃ x ∈ xs, f x = .ok y := by
  induction xs generalizing ys with
  | nil =>
    obtain rfl := pure_eq_ok.mp h
    cases hy
  | cons x rest ih =>
    rw [List.mapM_cons] at h
    obtain ⟨first, hfirst, h⟩ := bind_eq_ok.mp h
    obtain ⟨others, hothers, h⟩ := bind_eq_ok.mp h
    obtain rfl := pure_eq_ok.mp h
    rcases List.mem_cons.mp hy with rfl | hy
    · exact ⟨x, by simp, hfirst⟩
    · obtain ⟨z, hz, hzy⟩ := ih hothers hy
      exact ⟨z, List.mem_cons_of_mem _ hz, hzy⟩

/-- Each entry of a list that is read is read. -/
theorem exists_of_mapM {ε α β : Type} {f : α → Except ε β} {xs : List α} {ys : List β}
    (h : xs.mapM f = .ok ys) {x : α} (hx : x ∈ xs) : ∃ y, f x = .ok y := by
  induction xs generalizing ys with
  | nil => cases hx
  | cons z rest ih =>
    rw [List.mapM_cons] at h
    obtain ⟨first, hfirst, h⟩ := bind_eq_ok.mp h
    obtain ⟨others, hothers, -⟩ := bind_eq_ok.mp h
    rcases List.mem_cons.mp hx with rfl | hx
    · exact ⟨first, hfirst⟩
    · exact ih hothers hx

namespace Document

/-! ### The store of a document -/

/-- The parameters of signatures refer to their types by name, as all of a document does. -/
def RefersByName (d : Document) : Prop :=
  ∀ e ∈ d.types, ∀ p ∈ e.parameters, ∃ name, p.type = .name name

/-- The items of a list that is read from a numeric tree are read from numeric trees. -/
theorem exists_of_list {α : Type} {schema : Json.Schema α} {place : Json.Place} {s : Json.Source}
    (hs : s.isNumeric = true) {ys : List α} (h : Json.Schema.list schema place s = .ok ys) :
    ∀ y ∈ ys, ∃ item : Json.Source, item.isNumeric = true ∧ schema place item = .ok y := by
  cases s with
  | array items isClosed =>
    obtain ⟨parts, hparts, h⟩ := bind_eq_ok.mp h
    obtain ⟨⟨⟩, -, h⟩ := bind_eq_ok.mp h
    obtain rfl := pure_eq_ok.mp h
    intro y hy
    obtain ⟨item, hitem, hread⟩ := exists_of_mem_mapM hparts hy
    have hitems {items : List Json.Source} (h : Json.Source.itemsNumeric items = true)
        (hitem : item ∈ items) : item.isNumeric = true := by
      induction items with
      | nil => cases hitem
      | cons first rest ih =>
        rw [Json.Source.itemsNumeric, Bool.and_eq_true] at h
        rcases List.mem_cons.mp hitem with rfl | hitem
        · exact h.1
        · exact ih h.2 hitem
    exact ⟨item, hitems hs hitem, hread⟩
  | _ => cases h

theorem parameters_of_typeEntry {place : Json.Place} {s : Json.Source} (hs : s.isNumeric = true)
    {e : TypeEntry} (h : typeEntry.schema {} place s = .ok e) :
    ∀ p ∈ e.parameters, ∃ name, p.type = .name name := by
  have hparameter {s : Json.Source} (hs : s.isNumeric = true) {p : Parameter}
      (h : parameter.schema { name := "", type := .name "" } place s = .ok p) :
      ∃ name, p.type = .name name := by
    refine Json.Structure.schema_invariant (P := fun p => ∃ name, p.type = .name name) ?_ hs
      ⟨"", rfl⟩ h
    intro m hm s p p' _ hp h
    simp only [parameter, List.mem_cons, List.not_mem_nil, or_false] at hm
    rcases hm with rfl | rfl | rfl
    all_goals
      obtain ⟨v, -, rfl⟩ := map_eq_ok.mp h
    · exact hp
    · exact ⟨v, rfl⟩
    · exact hp
  refine Json.Structure.schema_invariant
    (P := fun e => ∀ p ∈ e.parameters, ∃ name, p.type = .name name) ?_ hs (by simp) h
  intro m hm s e e' hs he h
  simp only [typeEntry, List.mem_cons, List.not_mem_nil, or_false] at hm
  rcases hm with rfl | rfl | rfl | rfl | rfl | rfl | rfl | rfl | rfl | rfl
  all_goals
    obtain ⟨v, hv, rfl⟩ := map_eq_ok.mp h
  case inr.inr.inr.inr.inr.inr.inr.inr.inl =>
    intro p hp
    obtain ⟨item, hitem, hread⟩ := exists_of_list hs hv p hp
    exact hparameter hitem hread
  all_goals exact he

/-- A document that is read from a text refers by name. -/
theorem refersByName_of_ofText? {text : String} {d : Document} (h : ofText? text = .ok d) :
    d.RefersByName := by
  obtain ⟨x, hx, h⟩ := bind_eq_ok.mp h
  obtain ⟨⟨⟩, -, h⟩ := bind_eq_ok.mp h
  obtain rfl := pure_eq_ok.mp h
  have hsource : (Json.Source.ofText text).1.isNumeric = true := by
    unfold Json.Source.ofText
    exact (Json.Source.read_isNumeric _ _ _).1
  refine Json.Structure.schema_invariant (P := RefersByName) ?_ hsource (by simp [RefersByName]) hx
  intro m hm s d d' hs hd h
  simp only [document, List.mem_cons, List.not_mem_nil, or_false] at hm
  rcases hm with rfl | rfl | rfl | rfl
  all_goals
    obtain ⟨v, hv, rfl⟩ := map_eq_ok.mp h
  case inr.inl =>
    intro e he
    obtain ⟨item, hitem, hread⟩ := exists_of_list hs hv e he
    exact parameters_of_typeEntry hitem hread
  all_goals exact hd

theorem mem_foldl_declare {ds : List Declaration} {s : Store} {d : Declaration} :
    d ∈ (ds.foldl Store.declare s).declarations.toList ↔ d ∈ s.declarations.toList ∨ d ∈ ds := by
  induction ds generalizing s with
  | nil => simp
  | cons first rest ih => simp [ih, Store.declare, or_assoc]

theorem TypeEntry.parameters_declaration {shape : Store} {e : TypeEntry} {d : Declaration}
    (h : e.declaration shape = .ok d) : d.parameters = e.parameters := by
  have hbare {b : Declaration} (hb : e.bare = .ok b) : b.parameters = e.parameters := by
    rw [TypeEntry.bare] at hb
    split at hb
    all_goals
      obtain ⟨⟨kind, target⟩, -, hb⟩ := bind_eq_ok.mp hb
      obtain rfl := pure_eq_ok.mp hb
      rfl
  obtain ⟨b, hb, h⟩ := bind_eq_ok.mp h
  have hparameters := hbare hb
  split at h
  · obtain rfl := pure_eq_ok.mp h
    exact hparameters
  · obtain ⟨c, -, h⟩ := bind_eq_ok.mp h
    obtain rfl := pure_eq_ok.mp h
    exact hparameters

/-- The parameters of all declarations of a document refer by name. -/
theorem exists_name_of_buildStore {d : Document} (hd : d.RefersByName) {store : Store}
    (h : buildStore d.types = .ok store) (id : TypeId) :
    ∀ p ∈ (store.get id).parameters, ∃ name, p.type = .name name := by
  obtain ⟨bare, -, h⟩ := bind_eq_ok.mp h
  obtain ⟨declarations, hdeclarations, h⟩ := bind_eq_ok.mp h
  obtain rfl := pure_eq_ok.mp h
  by_cases hid : id < (declarations.foldl Store.declare Store.initial).size
  · have hmem : (declarations.foldl Store.declare Store.initial).get id ∈
        (declarations.foldl Store.declare Store.initial).declarations.toList := by
      rw [Store.size] at hid
      simp [Store.get, Array.getD_eq_getD_getElem?, hid]
    rcases mem_foldl_declare.mp hmem with hbuiltin | hdeclared
    · have hnone : ∀ d ∈ Store.initial.declarations.toList, d.parameters = [] := by
        intro d hd
        obtain ⟨k, -, rfl⟩ := List.mem_map.mp hd
        rfl
      simp [hnone _ hbuiltin]
    · obtain ⟨e, he, hentry⟩ := exists_of_mem_mapM hdeclarations hdeclared
      rw [TypeEntry.parameters_declaration hentry]
      exact hd e he
  · rw [Store.get_of_size_le (Nat.not_lt.mp hid)]
    simp

/-! ### The session in which the checks are made -/

/-- The session of a run after all declarations were checked. -/
def declaredSession (store : Store) (options : Options) : Session :=
  (Check.allDeclarations.run (openingSession store options)).2

theorem declaredSession_unstamped (store : Store) (options : Options) :
    (declaredSession store options).store.unstamped = store.unstamped :=
  (openingSession store options).allDeclarations_unstamped

theorem declaredSession_grounded (store : Store) (options : Options) :
    (declaredSession store options).Grounded (declaredSession store options) := by
  refine Session.Grounded.refl_of_fresh ?_
  obtain ⟨store', collector, errorCount, -, h⟩ := (openingSession store options).allDeclarations_eq
  rw [declaredSession, h]
  rfl

/-- Whatever a name means is settled by then. -/
theorem isSettled_declaredSession {store : Store} {name : String} {id : TypeId}
    (options : Options) (h : store.lookup name = some id) :
    (declaredSession store options).IsSettled id :=
  Session.isSettled_allDeclarations h

theorem typeOfName_eq_ok {s : Store} {name : String} {id : TypeId} :
    typeOfName s name = .ok id ↔ s.lookup name = some id := by
  unfold typeOfName
  cases s.lookup name <;> simp

theorem settledParameters_declaredSession {d : Document} (hd : d.RefersByName) {store : Store}
    (h : buildStore d.types = .ok store) (options : Options) (id : TypeId) :
    Check.Uniform.SettledParameters (declaredSession store options)
      ((declaredSession store options).store.get id).parameters := by
  have hsame := declaredSession_unstamped store options
  have hget := congrArg Declaration.parameters (Store.get_congr hsame id)
  rw [show ((declaredSession store options).store.get id).parameters = (store.get id).parameters
    from hget]
  intro p hp t ht
  obtain ⟨name, hname⟩ := exists_name_of_buildStore hd h id p hp
  rw [hname, Store.resolveRef?_congr hsame] at ht
  have hfound : store.lookup name = some t := by
    simp only [Store.resolveRef?, Store.resolveRef] at ht
    cases hlookup : store.lookup name with
    | none => simp [hlookup] at ht
    | some id => simpa [hlookup] using ht
  exact isSettled_declaredSession options hfound

/-! ### Checks -/

/-- Every check that a document can name is uniform once all declarations are settled. -/
theorem CheckEntry.action_uniform {d : Document} (hd : d.RefersByName) {store : Store}
    (hstore : buildStore d.types = .ok store) (options : Options) {location : Location}
    {entry : CheckEntry} {c : Check Bool} (h : entry.action store location = .ok c) :
    c.Uniform (declaredSession store options) := by
  have hsettled {name : String} {id : TypeId} (hid : typeOfName store name = .ok id) :
      (declaredSession store options).IsSettled id :=
    isSettled_declaredSession options (typeOfName_eq_ok.mp hid)
  cases entry with
  | reference r =>
    obtain ⟨expected, hexpected, h⟩ := bind_eq_ok.mp h
    obtain ⟨actual, hactual, h⟩ := bind_eq_ok.mp h
    obtain rfl := pure_eq_ok.mp h
    exact .reference (hsettled hexpected) (hsettled hactual) _
  | expression e =>
    obtain ⟨expected, -, h⟩ := bind_eq_ok.mp h
    obtain rfl := pure_eq_ok.mp h
    exact .expression _ _ _
  | value v =>
    obtain ⟨type, -, h⟩ := bind_eq_ok.mp h
    obtain ⟨value, -, h⟩ := bind_eq_ok.mp h
    obtain rfl := pure_eq_ok.mp h
    exact .value _ _ _
  | template t =>
    obtain ⟨type, -, h⟩ := bind_eq_ok.mp h
    obtain ⟨template, -, h⟩ := bind_eq_ok.mp h
    obtain rfl := pure_eq_ok.mp h
    exact .template _ _ _ _
  | redirect r =>
    obtain ⟨signature, -, h⟩ := bind_eq_ok.mp h
    obtain ⟨assignments, hassignments, h⟩ := bind_eq_ok.mp h
    obtain rfl := pure_eq_ok.mp h
    refine (Check.Uniform.redirect (settledParameters_declaredSession hd hstore options) ?_).map _
    intro a ha t ht
    obtain ⟨e, -, he⟩ := exists_of_mem_mapM hassignments ha
    obtain ⟨variableType, hvariable, he⟩ := bind_eq_ok.mp he
    obtain rfl := pure_eq_ok.mp he
    obtain rfl : variableType = some t := ht
    cases hname : e.variableType with
    | none =>
      rw [hname] at hvariable
      cases hvariable
    | some name =>
      rw [hname] at hvariable
      obtain ⟨id, hid, hvariable⟩ := map_eq_ok.mp hvariable
      obtain rfl := Option.some.inj hvariable
      exact hsettled hid

/-- What a check with a name stands for does not depend on its place. -/
theorem checkAt_of_named (store : Store) {entry : CheckEntry} (hname : entry.name?.isSome = true)
    (i j : Nat) : checkAt store (entry, i) = checkAt store (entry, j) := by
  obtain ⟨name, hname⟩ := Option.isSome_iff_exists.mp hname
  simp only [checkAt, labelOf, hname, Option.getD_some]

/-- Checks that each emit the same wherever they are made emit that one after another. -/
theorem makeChecks_emits {α : Type} {base : Session} {act : α → Check Bool}
    {group : α → List Diagnostic} {entries : List α}
    (h : ∀ e ∈ entries, ∃ a, (act e).Emits base a (group e)) :
    (makeChecks (entries.map act)).Emits base () (entries.flatMap group) := by
  induction entries with
  | nil => exact .pure ()
  | cons e rest ih =>
    rw [List.forall_mem_cons] at h
    obtain ⟨⟨a, he⟩, hrest⟩ := h
    exact he.bind (ih hrest)

/-- The diagnostics of a run are those of the declarations and of each check. -/
theorem diagnose_eq {α : Type} {store : Store} {options : Options} {act : α → Check Bool}
    {group : α → List Diagnostic} {entries : List α}
    (h : ∀ e ∈ entries, ∃ a, (act e).Emits (declaredSession store options) a (group e)) :
    diagnose store options (entries.map act) =
      (declaredSession store options).collector.toList ++ entries.flatMap group := by
  obtain ⟨t, hrun, -, hlist, -⟩ := makeChecks_emits h _ (declaredSession_grounded store options)
  have hdiagnose : diagnose store options (entries.map act) =
      ((makeChecks (entries.map act)).run (declaredSession store options)).2.collector.toList := rfl
  rw [hdiagnose, hrun, hlist]

/-- Each check of a document stands for an action, whatever its place, and emits a group of
diagnostics wherever it is made. -/
theorem exists_groups {d : Document} (hd : d.RefersByName)
    (hnamed : ∀ c ∈ d.checks, c.name?.isSome = true) {store : Store}
    (hstore : buildStore d.types = .ok store) {actions : List (Check Bool)}
    (hactions : d.checks.zipIdx.mapM (checkAt store) = .ok actions) (options : Options) :
    ∃ (act : CheckEntry → Check Bool) (group : CheckEntry → List Diagnostic),
      ∀ c ∈ d.checks, (∀ i, checkAt store (c, i) = .ok (act c)) ∧
        ∃ a, (act c).Emits (declaredSession store options) a (group c) := by
  have hentry : ∀ c, ∃ p : Check Bool × List Diagnostic, c ∈ d.checks →
      (∀ i, checkAt store (c, i) = .ok p.1) ∧
        ∃ a, p.1.Emits (declaredSession store options) a p.2 := by
    intro c
    by_cases hc : c ∈ d.checks
    · obtain ⟨i, hi⟩ := List.mem_iff_getElem?.mp hc
      obtain ⟨action, haction⟩ :=
        exists_of_mapM hactions (List.mem_zipIdx_iff_getElem? (x := (c, i)).mpr hi)
      obtain ⟨a, ds, hemits⟩ :=
        CheckEntry.action_uniform hd hstore options (mapError_eq_ok.mp haction)
      exact ⟨(action, ds), fun _ =>
        ⟨fun j => (checkAt_of_named store (hnamed c hc) j i).trans haction, a, hemits⟩⟩
    · exact ⟨(pure true, []), fun h => absurd h hc⟩
  obtain ⟨f, hf⟩ := Classical.axiomOfChoice hentry
  exact ⟨fun c => (f c).1, fun c => (f c).2, hf⟩

/-- **Checks are independent of each other.**  Let a document be run in which every check has a
name, and which refers by name, as every document that is read from a text does
(`refersByName_of_ofText?`).  Then the diagnostics are those of the declarations, which are what
the document without checks emits, and check by check a group of its own, which is what the
document emits beyond the declarations if that is its only check.  So any list of checks drawn from
those of the document emits their groups in its own order, and nothing else of the report changes. -/
theorem run_checks {d : Document} {options : Options} {report : Report}
    (hrun : d.run options = .ok report) (hd : d.RefersByName)
    (hnamed : ∀ c ∈ d.checks, c.name?.isSome = true) :
    ∃ declared, ∃ group : CheckEntry → List Diagnostic,
      report.diagnostics = declared ++ d.checks.flatMap group ∧
      { d with checks := [] }.run options = .ok { report with diagnostics := declared } ∧
      (∀ c ∈ d.checks, { d with checks := [c] }.run options =
        .ok { report with diagnostics := declared ++ group c }) ∧
      ∀ checks ⊆ d.checks, { d with checks }.run options =
        .ok { report with diagnostics := declared ++ checks.flatMap group } := by
  obtain ⟨store, hstore, hrun⟩ := bind_eq_ok.mp hrun
  obtain ⟨actions, hactions, hrun⟩ := bind_eq_ok.mp hrun
  obtain ⟨outcomes, houtcomes, hrun⟩ := bind_eq_ok.mp hrun
  obtain rfl := pure_eq_ok.mp hrun
  obtain ⟨act, group, hgroups⟩ := exists_groups hd hnamed hstore hactions options
  have hread {checks : List CheckEntry} (hsub : checks ⊆ d.checks) :
      checks.zipIdx.mapM (checkAt store) = .ok (checks.map act) := by
    have hentries : checks.zipIdx.mapM (checkAt store) =
        .ok (checks.zipIdx.map (act ∘ Prod.fst)) :=
      mapM_eq_ok_of_forall fun e he => (hgroups e.1 (hsub (List.fst_mem_of_mem_zipIdx he))).1 e.2
    rw [hentries, ← List.map_map, List.zipIdx_map_fst]
  have hdiagnose {checks : List CheckEntry} (hsub : checks ⊆ d.checks) :
      diagnose store options (checks.map act) =
        (declaredSession store options).collector.toList ++ checks.flatMap group :=
    diagnose_eq fun c hc => (hgroups c (hsub hc)).2
  have hany : ∀ checks ⊆ d.checks, { d with checks }.run options = .ok
      { diagnostics := (declaredSession store options).collector.toList ++ checks.flatMap group
        outcomes } := by
    intro checks hsub
    rw [← hdiagnose hsub]
    refine bind_eq_ok.mpr ⟨store, hstore, bind_eq_ok.mpr ⟨_, hread hsub, ?_⟩⟩
    exact bind_eq_ok.mpr ⟨outcomes, houtcomes, rfl⟩
  refine ⟨(declaredSession store options).collector.toList, group, ?_, ?_, ?_, hany⟩
  · rw [hread (List.Subset.refl _)] at hactions
    obtain rfl := Except.ok.inj hactions
    exact hdiagnose (List.Subset.refl _)
  · simpa using hany [] (List.nil_subset _)
  · intro c hc
    simpa using hany [c] (by simpa using hc)

/-- An expression of another kind than what is expected of it. -/
def wrongExpression (name : String) (expected result : Kind) : CheckEntry :=
  .expression { name := some name, expected := expected.keyword, resultKind := result }

/-- What is reported of such an expression. -/
def wrongKind (name : String) (expected : Kind) : Diagnostic :=
  .ofMessage (.ofFile name) .incompatibleValue [expected.keyword]

/-- A document with two expressions in it that are of the wrong kind. -/
def twoExpressions : Document where
  checks := [wrongExpression "first" .integer .boolean, wrongExpression "second" .boolean .integer]

/-- Each expression has a diagnostic for its group, and the declarations have none; with the checks
the other way round, the groups are the other way round. -/
theorem run_checks_twoExpressions :
    ∃ report, twoExpressions.run {} = .ok report ∧ twoExpressions.RefersByName ∧
      (∀ c ∈ twoExpressions.checks, c.name?.isSome = true) ∧
      report.diagnostics = [wrongKind "first" .integer, wrongKind "second" .boolean] ∧
      { twoExpressions with checks := twoExpressions.checks.reverse }.run {} = .ok
        { report with
          diagnostics := [wrongKind "second" .boolean, wrongKind "first" .integer] } := by
  obtain ⟨report, hrun⟩ : ∃ report, twoExpressions.run {} = .ok report := ⟨_, rfl⟩
  have hrefers : twoExpressions.RefersByName := by
    simp [RefersByName, twoExpressions, wrongExpression]
  have hnamed : ∀ c ∈ twoExpressions.checks, c.name?.isSome = true := by decide
  obtain ⟨declared, group, hall, hnone, hone, hany⟩ := run_checks hrun hrefers hnamed
  obtain rfl : declared = [] := by
    have hbare : { twoExpressions with checks := [] }.run {} = .ok {} := rfl
    exact congrArg Report.diagnostics (Except.ok.inj (hnone.symm.trans hbare))
  have hgroup {c : CheckEntry} (hc : c ∈ twoExpressions.checks) {ds : List Diagnostic}
      (halone : { twoExpressions with checks := [c] }.run {} = .ok { diagnostics := ds }) :
      group c = ds := by
    have hreport := Except.ok.inj ((hone c hc).symm.trans halone)
    exact congrArg Report.diagnostics hreport
  have hfirst : group (wrongExpression "first" .integer .boolean) =
      [wrongKind "first" .integer] := hgroup (by simp [twoExpressions]) rfl
  have hsecond : group (wrongExpression "second" .boolean .integer) =
      [wrongKind "second" .boolean] := hgroup (by simp [twoExpressions]) rfl
  refine ⟨report, hrun, hrefers, hnamed, ?_, ?_⟩
  · rw [hall]
    simp [twoExpressions, hfirst, hsecond]
  · rw [hany _ (List.reverse_subset.mpr (List.Subset.refl _))]
    simp [twoExpressions, hfirst, hsecond]

end Document

end TestSpec
