import TestSpec.Proofs.Check.Acceptance
import TestSpec.Proofs.Constraint.Narrowing
import TestSpec.Proofs.Session.Declarations
import TestSpec.Proofs.Store.Chain

/-!
# What an alias accepts, and its target

The check of a value asks only the constraint in force for a type, the nearest one on
its alias chain.  That an accepted value satisfies the constraints further along the
chain is left to the check of declarations, which has compared each constraint with the
one it narrows.

The comparison passes constraints of different dimensions, and limits without a common
order, without looking at them.  A literal that the constraint of an alias admits
**escapes** the inherited one (`Store.Escapes`) if such a comparison decides nothing about
it (`Constraint.settles`), or if there was no comparison: the end of the chain has no kind,
or the chain is of full length and the walk from the alias stops before the end.  The
target of an alias refuses an accepted value exactly if its constraint does not admit the
literal of the value, and the literal has escaped it then.

An alias **narrows** its target for a value (`Store.Narrows`) if nothing of this is the
case.  Then the target accepts what the alias accepts, and so does every type that is
reached along such aliases.

Main statement: `Check.value_refused_of_alias_iff`.
-/

namespace TestSpec

/-- A value that corresponds to a literal is bound. -/
theorem Value.isBound_of_mem_literal? {v : Value} {x : Literal} (hx : x ∈ v.literal?) :
    v.isBound = true := by
  cases v with
  | unbound kind => cases hx
  | _ => rfl

namespace Store

variable {s : Store} {type target : TypeId} {v : Value}

/-- Types with one end of their chains have the same parts. -/
theorem partsInOrder_congr {last : TypeId} (htype : s.resolveAlias? type = some last)
    (htarget : s.resolveAlias? target = some last) {n : Nesting} :
    s.PartsInOrder type n v ↔ s.PartsInOrder target n v := by
  have hfield (name : String) : s.fieldType type name = s.fieldType target name := by
    rw [fieldType_eq htype, fieldType_eq htarget]
  have helement : s.elementType type = s.elementType target := by
    rw [elementType_eq htype, elementType_eq htarget]
  cases v with
  | unbound kind => rfl
  | scalar kind content =>
    cases content with
    | enumerated name ordinal =>
      simp only [PartsInOrder, checkEnumerator, htype, htarget]
      cases ((s.get last).enumerator? name).isSome <;> simp [Findings.complaint]
    | _ => rfl
  | record kind fields => simp only [PartsInOrder, hfield]
  | union kind alternative value => simp only [PartsInOrder, hfield]
  | list kind elements => simp only [PartsInOrder, helement]

/-- The constraint of a type itself is the one in force for it. -/
theorem effectiveConstraint_own {c : Constraint} (h : (s.get type).constraint = some c) :
    s.effectiveConstraint type = some c := by
  rw [effectiveConstraint, show maxAliasHops = 63 + 1 from rfl, constraintWithin, h]

/-! ### One alias -/

/-- A literal gets past an inherited constraint: the check of the alias has compared no constraint
with it that decides about the literal. -/
inductive Escapes (s : Store) (type : TypeId) (inherited : Constraint) (x : Literal) : Prop
  /-- The constraint of the alias admits the literal and counts as narrower, but comparing it with
  the inherited one decides nothing about the literal. -/
  | unsettled {c : Constraint} (hc : (s.get type).constraint = some c) (hadmits : c.admits x = true)
      (hsub : c.isSubsetOf inherited = true) (hsettles : c.settles inherited x = false)
  /-- The constraint of the alias admits the literal and was not compared, since the chain ends at a
  declaration of no kind. -/
  | uncompared {c : Constraint} (hc : (s.get type).constraint = some c)
      (hadmits : c.admits x = true) (hkind : (s.resolvedKind type).1 = .undefined)
  /-- The alias has no constraint, and the walk from it stops before the inherited one. -/
  | beyond (hc : (s.get type).constraint = none) (hforce : s.effectiveConstraint type = none)

/-- What the constraint in force for an alias in order admits and that of its target does not has
escaped the latter. -/
theorem escapes_of_admits (horder : s.InOrder type) (hnext : s.nextAlias? type = some target)
    {inherited : Constraint} (hinherited : s.effectiveConstraint target = some inherited)
    {x : Literal} (hadmits : ∀ c ∈ s.effectiveConstraint type, c.admits x = true)
    (hrefused : inherited.admits x = false) : s.Escapes type inherited x := by
  cases hc : (s.get type).constraint with
  | some c =>
    have hown := hadmits c (effectiveConstraint_own hc)
    by_cases hkind : (s.resolvedKind type).1 = .undefined
    · exact .uncompared hc hown hkind
    · have hsub := horder.isSubsetOf hc hnext hinherited hkind
      refine .unsettled hc hown hsub (Bool.eq_false_iff.mpr fun hsettled => ?_)
      rw [Constraint.admits_of_isSubsetOf hsub hsettled hown] at hrefused
      cases hrefused
  | none =>
    refine .beyond hc ?_
    cases hforce : s.effectiveConstraint type with
    | none => rfl
    | some c =>
      have hsame := effectiveConstraint_target hnext hc hforce
      obtain rfl := Option.some.inj (hsame.symm.trans hinherited)
      rw [hadmits c hforce] at hrefused
      cases hrefused

/-- Where the target of an alias in order is not silenced, neither is the alias. -/
theorem isSilenced_eq_false_of_target (horder : s.InOrder type)
    (hmark : (s.get type).isErroneous = false) (hnext : s.nextAlias? type = some target)
    (hsilent : s.isSilenced target = false) : s.isSilenced type = false := by
  refine isSilenced_eq_false_iff.mpr ⟨Bool.eq_false_iff.mpr fun herror => ?_, horder.exists_last⟩
  have htarget := (isSilenced_eq_false_iff.mp hsilent).1
  rw [isErroneous_target hnext hmark herror] at htarget
  cases htarget

/-- A value that an alias in order accepts is accepted by its target, too, if the constraint in force
there, unless the target is silenced, admits the value: all else is the same for both. -/
theorem checkValue_target_iff (horder : s.InOrder type)
    (hmark : (s.get type).isErroneous = false) (hnext : s.nextAlias? type = some target)
    {n : Nesting} (hok : (s.checkValue type n v).1.ok = true) :
    (s.checkValue target n v).1.ok = true ↔
      (v.isBound = true → s.isSilenced target = false → s.Admits target v) := by
  obtain ⟨last, hlast⟩ := horder.exists_last
  have hend := resolveAlias?_target hnext hlast
  obtain ⟨deeper, hroom, haccepted⟩ := checkValue_ok_iff.mp hok
  rw [checkValue_ok_iff]
  constructor
  · rintro ⟨_, -, htarget⟩ hbound hsilent
    exact (htarget hbound hsilent).2.2
  · intro hadmits
    refine ⟨deeper, hroom, fun hbound hsilent => ?_⟩
    obtain ⟨hkind, hparts, -⟩ :=
      haccepted hbound (isSilenced_eq_false_of_target horder hmark hnext hsilent)
    have hkind' : s.acceptsKind target v.kind = true := by
      rwa [acceptsKind, resolvedKind_eq hend, ← resolvedKind_eq hlast, ← acceptsKind]
    exact ⟨hkind', (partsInOrder_congr hlast hend).mp hparts, hadmits hbound hsilent⟩

/-- A value that an alias in order accepts is refused by its target exactly if the constraint in
force there, unless the target is silenced, does not admit its literal; the literal has escaped
that constraint then. -/
theorem checkValue_target_refused_iff (horder : s.InOrder type)
    (hmark : (s.get type).isErroneous = false) (hnext : s.nextAlias? type = some target)
    {n : Nesting} (hok : (s.checkValue type n v).1.ok = true) :
    (s.checkValue target n v).1.ok = false ↔ s.isSilenced target = false ∧
      ∃ inherited ∈ s.effectiveConstraint target, ∃ x ∈ v.literal?,
        inherited.admits x = false ∧ s.Escapes type inherited x := by
  rw [← Bool.not_eq_true, checkValue_target_iff horder hmark hnext hok]
  constructor
  · intro hrefused
    simp only [Classical.not_imp, Admits, not_forall, Bool.not_eq_true] at hrefused
    obtain ⟨hbound, hsilent, inherited, hinherited, x, hx, hnot⟩ := hrefused
    obtain ⟨_, -, haccepted⟩ := checkValue_ok_iff.mp hok
    obtain ⟨-, -, hadmits⟩ :=
      haccepted hbound (isSilenced_eq_false_of_target horder hmark hnext hsilent)
    exact ⟨hsilent, inherited, hinherited, x, hx, hnot,
      escapes_of_admits horder hnext hinherited (fun c hc => hadmits c hc x hx) hnot⟩
  · rintro ⟨hsilent, inherited, hinherited, x, hx, hnot, -⟩ hadmits
    rw [hadmits (Value.isBound_of_mem_literal? hx) hsilent inherited hinherited x hx] at hnot
    cases hnot

/-! ### Aliases that narrow -/

/-- An alias narrows its target where a value is concerned. -/
structure Narrows (s : Store) (v : Value) (type target : TypeId) : Prop where
  /-- The alias is a declaration that its name means. -/
  declared : type ∈ s.userTypes
  leads : s.nextAlias? type = some target
  /-- Fewer aliases follow than may be followed. -/
  ends : ∃ last, s.followAlias (maxAliasHops - 1) [] type = .ok last
  /-- Comparing the constraint of the alias, if it has one, with the inherited one, if there is one,
  decides about the value. -/
  compared : ∀ c ∈ (s.get type).constraint, ∀ inherited ∈ s.effectiveConstraint target,
    ∀ x ∈ v.literal?, (s.resolvedKind type).1 ≠ .undefined ∧ c.settles inherited x = true

/-- No literal of the value escapes the constraint of a target that the alias narrows. -/
theorem Narrows.not_escapes (h : s.Narrows v type target) {inherited : Constraint}
    (hinherited : s.effectiveConstraint target = some inherited) {x : Literal}
    (hx : x ∈ v.literal?) : ¬ s.Escapes type inherited x := by
  intro hescapes
  cases hescapes with
  | unsettled hc hadmits hsub hsettles =>
    rw [(h.compared _ hc inherited hinherited x hx).2] at hsettles
    cases hsettles
  | uncompared hc hadmits hkind =>
    exact (h.compared _ hc inherited hinherited x hx).1 hkind
  | beyond hc hforce =>
    obtain ⟨last, hlast⟩ := h.ends
    rw [effectiveConstraint_eq_target h.leads hlast hc, hinherited] at hforce
    cases hforce

/-- A value that an alias in order accepts is accepted by the target that it narrows. -/
theorem checkValue_of_narrows (h : s.Narrows v type target) (horder : s.InOrder type)
    (hmark : (s.get type).isErroneous = false) {n : Nesting}
    (hok : (s.checkValue type n v).1.ok = true) : (s.checkValue target n v).1.ok = true := by
  rw [← Bool.not_eq_false, checkValue_target_refused_iff horder hmark h.leads hok]
  rintro ⟨-, inherited, hinherited, x, hx, -, hescapes⟩
  exact h.not_escapes hinherited hx hescapes

/-- A type leads to another along aliases that each narrow their target for a value. -/
inductive NarrowsTo (s : Store) (v : Value) (type : TypeId) : TypeId → Prop
  | refl : NarrowsTo s v type type
  | step {u w : TypeId} (hu : NarrowsTo s v type u) (h : s.Narrows v u w) : NarrowsTo s v type w

end Store

namespace Check

/-- **What an alias accepts, and its target.**  Let no declaration be found erroneous, and let an
alias accept a value.  Then its target refuses the value exactly if, not being silenced, it has a
constraint in force that does not admit the literal of the value; and that happens only where the
literal escapes the constraint in the check of the alias.  So a type that is reached along aliases
that narrow their targets for the value accepts it without a complaint, and unless that type is
silenced, the value satisfies its constraint. -/
theorem value_refused_of_alias_iff {start s t : Session} (hfaithful : start.Faithful)
    (hrun : Check.allDeclarations.run start = (0, s)) (ht : t.store = s.store)
    (location : Location) (type : TypeId) (v : Value)
    (hok : ((Check.value location type v).run t).1 = true) :
    (∀ target, type ∈ s.store.userTypes → s.store.nextAlias? type = some target →
      (((Check.value location target v).run t).1 = false ↔
        s.store.isSilenced target = false ∧
          ∃ inherited ∈ s.store.effectiveConstraint target, ∃ x ∈ v.literal?,
            inherited.admits x = false ∧ s.store.Escapes type inherited x)) ∧
      ∀ target, s.store.NarrowsTo v type target →
        ((Check.value location target v).run t).1 = true ∧
          ((Check.value location target v).run t).2.collector = t.collector ∧
          (s.store.isSilenced target = false →
            ∀ c ∈ (s.store.get target).constraint, ∀ x ∈ v.literal?, c.admits x = true) := by
  have hvalue (type : TypeId) : ((Check.value location type v).run t).1 =
      (s.store.checkValue type t.nesting v).1.ok := by rw [← ht]; rfl
  have horder {id : TypeId} (hid : id ∈ s.store.userTypes) :
      s.store.InOrder id ∧ (s.store.get id).isErroneous = false := by
    have hsame := start.allDeclarations_unstamped
    have hcount : (Check.allDeclarations.run start).1 = 0 := by rw [hrun]
    rw [hrun] at hsame
    rw [Store.userTypes_congr hsame] at hid
    simpa only [hrun] using hfaithful.inOrder_of_allDeclarations hcount hid
  rw [hvalue] at hok
  constructor
  · intro target hdeclared hnext
    obtain ⟨hinOrder, hmark⟩ := horder hdeclared
    rw [hvalue]
    exact Store.checkValue_target_refused_iff hinOrder hmark hnext hok
  intro target hchain
  have htarget : (s.store.checkValue target t.nesting v).1.ok = true := by
    induction hchain with
    | refl => exact hok
    | step _ h ih =>
      obtain ⟨hinOrder, hmark⟩ := horder h.declared
      exact Store.checkValue_of_narrows h hinOrder hmark ih
  refine ⟨(hvalue target).trans htarget, ?_, fun hsilent c hc x hx => ?_⟩
  · have hquiet := Store.checkValue_complaints_eq_nil htarget
    have hcollector : ((Check.value location target v).run t).2.collector = (t.emitAll location
        (t.store.checkValue target t.nesting v).1.complaints).collector := rfl
    rw [hcollector, ht, hquiet]
    rfl
  · obtain ⟨_, -, haccepted⟩ := Store.checkValue_ok_iff.mp htarget
    obtain ⟨-, -, hadmits⟩ := haccepted (Value.isBound_of_mem_literal? hx) hsilent
    exact hadmits c (Store.effectiveConstraint_own hc) x hx

end Check

/-- A session over words of small letters, a constraint on an alias of them, and strings. -/
def Session.overLetters (c : Constraint) : Session where
  store := ⟨#[
    { name := "charstring", kind := .charstring, isBuiltin := true },
    { name := "Letters", kind := .referenced, target := some (.name "charstring"),
      constraint := some (.range ⟨some ⟨.char 'a', false⟩, some ⟨.char 'z', false⟩⟩) },
    { name := "Word", kind := .referenced, target := some (.name "Letters"),
      constraint := some c }]⟩
  pass := 1

theorem Session.overLetters_faithful (c : Constraint) : (Session.overLetters c).Faithful := by
  refine faithful_of_unchecked fun id => ?_
  match id with
  | 0 | 1 | 2 => rfl
  | id + 3 => rfl

/-- A session over words of letters from `b` to before `n`, with all declarations checked. -/
def Session.earlyWords : Session :=
  (Check.allDeclarations.run
    (.overLetters (.range ⟨some ⟨.char 'b', false⟩, some ⟨.char 'n', true⟩⟩))).2

/-- A session over words of one to three letters, with all declarations checked. -/
def Session.shortWords : Session :=
  (Check.allDeclarations.run (.overLetters (.lengths [⟨1, some 3⟩]))).2

/-- An early word is accepted as letters; a short word that is refused as letters has escaped the
constraint of them. -/
theorem Check.value_refused_of_alias_iff_words :
    ((Check.value {} 1 (.text .charstring "bc")).run .earlyWords).1 = true ∧
      ((Check.value {} 2 (.text .charstring "ZZ")).run .shortWords).1 = true ∧
      ((Check.value {} 1 (.text .charstring "ZZ")).run .shortWords).1 = false ∧
      ∃ inherited ∈ Session.shortWords.store.effectiveConstraint 1,
        inherited.admits (.string "ZZ") = false ∧
          Session.shortWords.store.Escapes 2 inherited (.string "ZZ") := by
  have hearly : Check.allDeclarations.run
      (.overLetters (.range ⟨some ⟨.char 'b', false⟩, some ⟨.char 'n', true⟩⟩)) =
        (0, .earlyWords) := Prod.ext (by decide) rfl
  have hshort : Check.allDeclarations.run (.overLetters (.lengths [⟨1, some 3⟩])) =
      (0, .shortWords) := Prod.ext (by decide) rfl
  have hnarrows : Store.Narrows Session.earlyWords.store (.text .charstring "bc") 2 1 :=
    { declared := by decide
      leads := by decide
      ends := ⟨0, by rfl⟩
      compared := by decide }
  obtain ⟨-, hreached⟩ := Check.value_refused_of_alias_iff (Session.overLetters_faithful _) hearly
    rfl {} 2 (.text .charstring "bc") (by decide)
  have haccepted : ((Check.value {} 2 (.text .charstring "ZZ")).run .shortWords).1 = true := by
    decide
  have hrefused : ((Check.value {} 1 (.text .charstring "ZZ")).run .shortWords).1 = false := by
    decide
  obtain ⟨htarget, -⟩ := Check.value_refused_of_alias_iff (Session.overLetters_faithful _) hshort
    rfl {} 2 (.text .charstring "ZZ") haccepted
  obtain ⟨-, inherited, hinherited, x, hx, hadmits⟩ :=
    (htarget 1 (by decide) (by decide)).mp hrefused
  obtain rfl : Literal.string "ZZ" = x := Option.some.inj hx
  exact ⟨(hreached 1 (.step .refl hnarrows)).1, haccepted, hrefused, inherited, hinherited,
    hadmits⟩

/-- A set of lengths hands no letters down: no declaration is found erroneous, and yet a short word
that the alias accepts without a complaint is refused by the target of the alias. -/
theorem Check.value_refused_shortWord :
    (Session.overLetters (.lengths [⟨1, some 3⟩])).Faithful ∧
      Check.allDeclarations.run (.overLetters (.lengths [⟨1, some 3⟩])) = (0, .shortWords) ∧
      Session.shortWords.errorCount = 0 ∧ Session.shortWords.collector.toList = [] ∧
      Session.shortWords.store.nextAlias? 2 = some 1 ∧
      ((Check.value {} 2 (.text .charstring "ZZ")).run .shortWords).1 = true ∧
      ((Check.value {} 2 (.text .charstring "ZZ")).run .shortWords).2.collector.toList = [] ∧
      ((Check.value {} 1 (.text .charstring "ZZ")).run .shortWords).1 = false :=
  ⟨Session.overLetters_faithful _, Prod.ext (by decide) rfl, by decide, by decide, by decide,
    by decide, by decide, by decide⟩

end TestSpec
