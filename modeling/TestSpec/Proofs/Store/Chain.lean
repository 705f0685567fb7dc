import TestSpec.Proofs.Store.Resolve

/-!
# Walks along alias chains

Three walks follow an alias chain: one to its end, one to the first constraint on it, one
to the first erroneous mark.  All are bounded by the same number, but the first one counts
the aliases that it passes, and the other two the declarations that they look at, the end
included.

The **chain** of a type lists the declarations from the type to the end that following its
aliases comes to (`Store.Chain`).  A walk for a constraint or a mark sees a front part of
it (`Store.Chain.constraintWithin_eq`, `Store.Chain.erroneousWithin_iff`), which is the whole
chain unless that is of full length, with as many aliases as may be followed.  Then its end
is found, but neither the constraint nor the mark of the end takes part.  The target of an
alias has the end of the alias's own chain, and whatever constraint and marks the alias
takes over from it; on a chain of full length, the target may have more of them.

Main statement: `Store.walks_of_resolveAlias`.
-/

namespace TestSpec

namespace Store

variable {s : Store} {id last next : TypeId} {chain : List TypeId}

theorem isAlias_of_nextAlias? (h : s.nextAlias? id = some next) : (s.get id).isAlias = true := by
  simp only [nextAlias?] at h
  split at h
  · assumption
  · cases h

/-- Aliases that lead to an end lead there with more hops allowed and fewer aliases passed. -/
theorem followAlias_mono {hops hops' : Nat} {passed passed' : List TypeId} (hle : hops ≤ hops')
    (hsub : passed' ⊆ passed) (h : s.followAlias hops passed id = .ok last) :
    s.followAlias hops' passed' id = .ok last := by
  induction hops generalizing hops' passed passed' id with
  | zero =>
    rcases followAlias_ok h with ⟨hid, rfl⟩ | ⟨_, _, _, hzero, -⟩
    · rw [followAlias.eq_def]
      simp [hid]
    · cases hzero
  | succ hops ih =>
    obtain ⟨k, rfl⟩ : ∃ k, hops' = k + 1 := ⟨hops' - 1, by omega⟩
    cases hid : (s.get id).isAlias with
    | false =>
      rw [followAlias.eq_def] at h ⊢
      simpa [hid] using h
    | true =>
      simp only [followAlias, hid, Bool.not_true, Bool.false_eq_true, if_false] at h ⊢
      split at h
      · cases h
      · rename_i hnew
        have hnew' : ¬ passed'.contains id = true := by
          simp only [List.contains_iff_mem] at hnew ⊢
          exact fun hmem => hnew (hsub hmem)
        rw [if_neg hnew']
        split at h
        · cases h
        split at h
        · cases h
        · exact ih (Nat.le_of_succ_le_succ hle)
            (List.append_subset.mpr
              ⟨List.Subset.trans hsub (List.subset_append_left _ _), by simp⟩) h

/-- The target of an alias leads to the end of the alias's chain, with one hop less. -/
theorem followAlias_target {hops : Nat} {passed : List TypeId}
    (h : s.followAlias hops passed id = .ok last) (hnext : s.nextAlias? id = some next) :
    ∃ rest, hops = rest + 1 ∧ s.followAlias rest [] next = .ok last := by
  rcases followAlias_ok h with ⟨hid, -⟩ | ⟨rest, passed', next', hrest, hnext', hlast⟩
  · simp [isAlias_of_nextAlias? hnext] at hid
  · rw [hnext, Option.some.injEq] at hnext'
    subst hnext'
    exact ⟨rest, hrest, followAlias_mono (Nat.le_refl _) (List.nil_subset _) hlast⟩

/-! ### Chains -/

/-- The declarations from a type along its aliases to the first one that is no alias. -/
inductive Chain (s : Store) : TypeId → List TypeId → TypeId → Prop
  | last {id : TypeId} (hid : (s.get id).isAlias = false) : Chain s id [id] id
  | hop {id next last : TypeId} {rest : List TypeId} (hnext : s.nextAlias? id = some next)
      (hrest : Chain s next rest last) : Chain s id (id :: rest) last

/-- Following aliases to an end passes the declarations of a chain, and no more aliases than it
may. -/
theorem exists_chain {hops : Nat} {passed : List TypeId}
    (h : s.followAlias hops passed id = .ok last) :
    ∃ chain, s.Chain id chain last ∧ chain.length ≤ hops + 1 := by
  induction hops generalizing passed id with
  | zero =>
    obtain ⟨hid, rfl⟩ | ⟨_, _, _, hzero, -⟩ := followAlias_ok h
    · exact ⟨[id], .last hid, Nat.le_refl 1⟩
    · cases hzero
  | succ hops ih =>
    obtain ⟨hid, rfl⟩ | ⟨rest, passed', next, hrest, hnext, hlast⟩ := followAlias_ok h
    · exact ⟨[id], .last hid, by simp⟩
    · obtain rfl := Nat.succ_inj.mp hrest
      obtain ⟨chain, hchain, hlength⟩ := ih hlast
      exact ⟨id :: chain, .hop hnext hchain, Nat.succ_le_succ hlength⟩

namespace Chain

theorem nextAlias?_of_isAlias (h : (s.get id).isAlias = false) : s.nextAlias? id = none := by
  simp [nextAlias?, h]

/-- A walk for a constraint finds the first one among the declarations that it looks at. -/
theorem constraintWithin_eq (h : s.Chain id chain last) (count : Nat) :
    s.constraintWithin count id =
      (chain.take count).findSome? fun u => (s.get u).constraint := by
  induction h generalizing count with
  | @last id hid =>
    cases count with
    | zero => rfl
    | succ count =>
      rw [constraintWithin, nextAlias?_of_isAlias hid]
      cases hc : (s.get id).constraint <;> simp [hc]
  | @hop id next last rest hnext hrest ih =>
    cases count with
    | zero => rfl
    | succ count =>
      rw [constraintWithin, hnext, Option.bind_some, ih count, List.take_succ_cons,
        List.findSome?_cons]
      cases (s.get id).constraint <;> rfl

/-- A walk for an erroneous mark finds one if there is one among the declarations that it looks
at. -/
theorem erroneousWithin_iff (h : s.Chain id chain last) (count : Nat) :
    s.erroneousWithin count id = true ↔
      ∃ u ∈ chain.take count, (s.get u).isErroneous = true := by
  induction h generalizing count with
  | @last id hid =>
    cases count with
    | zero => simp [erroneousWithin]
    | succ count => simp [erroneousWithin, nextAlias?_of_isAlias hid]
  | @hop id next last rest hnext hrest ih =>
    cases count with
    | zero => simp [erroneousWithin]
    | succ count =>
      rw [erroneousWithin, hnext, Option.any_some, Bool.or_eq_true, ih count,
        List.take_succ_cons]
      simp only [List.mem_cons, exists_eq_or_imp]

end Chain

/-! ### What an alias takes over from its target -/

/-- A constraint that is met within some declarations is met within more. -/
theorem constraintWithin_mono {count count' : Nat} (hle : count ≤ count') {c : Constraint}
    (h : s.constraintWithin count id = some c) : s.constraintWithin count' id = some c := by
  induction count generalizing count' id with
  | zero => cases h
  | succ count ih =>
    obtain ⟨k, rfl⟩ : ∃ k, count' = k + 1 := ⟨count' - 1, by omega⟩
    rw [constraintWithin] at h ⊢
    cases hc : (s.get id).constraint with
    | some own => simpa [hc] using h
    | none =>
      simp only [hc] at h ⊢
      obtain ⟨next, hnext, h⟩ := Option.bind_eq_some_iff.mp h
      exact Option.bind_eq_some_iff.mpr ⟨next, hnext, ih (Nat.le_of_succ_le_succ hle) h⟩

/-- A mark that is met within some declarations is met within more. -/
theorem erroneousWithin_mono {count count' : Nat} (hle : count ≤ count')
    (h : s.erroneousWithin count id = true) : s.erroneousWithin count' id = true := by
  induction count generalizing count' id with
  | zero => cases h
  | succ count ih =>
    obtain ⟨k, rfl⟩ : ∃ k, count' = k + 1 := ⟨count' - 1, by omega⟩
    rw [erroneousWithin, Bool.or_eq_true, Option.any_eq_true] at h ⊢
    rcases h with hmark | ⟨next, hnext, hmark⟩
    · exact .inl hmark
    · exact .inr ⟨next, hnext, ih (Nat.le_of_succ_le_succ hle) hmark⟩

section Target

variable (hnext : s.nextAlias? id = some next)

include hnext

/-- The chain of the target ends where that of the alias ends. -/
theorem resolveAlias?_target (h : s.resolveAlias? id = some last) :
    s.resolveAlias? next = some last := by
  obtain ⟨rest, hrest, hlast⟩ := followAlias_target (resolveAlias?_eq_some_iff.mp h) hnext
  exact resolveAlias?_eq_some_iff.mpr (followAlias_mono (by omega) (List.nil_subset _) hlast)

/-- The constraint in force for an alias without one of its own is that of its target. -/
theorem effectiveConstraint_target (hc : (s.get id).constraint = none) {c : Constraint}
    (h : s.effectiveConstraint id = some c) : s.effectiveConstraint next = some c := by
  rw [effectiveConstraint, show maxAliasHops = 63 + 1 from rfl, constraintWithin, hc, hnext] at h
  exact constraintWithin_mono (by decide) h

/-- What makes an alias erroneous that is not marked so itself makes its target erroneous. -/
theorem isErroneous_target (hmark : (s.get id).isErroneous = false)
    (h : s.isErroneous id = true) : s.isErroneous next = true := by
  rw [isErroneous, show maxAliasHops = 63 + 1 from rfl, erroneousWithin, hmark, hnext] at h
  exact erroneousWithin_mono (by decide) h

/-- An alias without a constraint of its own has that of its target in force, if its chain is not of
full length: the walk for a constraint looks at as many declarations as there may be aliases, and
so misses the last declaration of a chain of full length. -/
theorem effectiveConstraint_eq_target
    (hchain : s.followAlias (maxAliasHops - 1) [] id = .ok last)
    (hc : (s.get id).constraint = none) :
    s.effectiveConstraint id = s.effectiveConstraint next := by
  obtain ⟨rest, hrest, hlast⟩ := followAlias_target hchain hnext
  obtain ⟨chain, htarget, hlength⟩ := exists_chain hlast
  have hshort : chain.length < maxAliasHops := by omega
  have halias : s.Chain id (id :: chain) last := .hop hnext htarget
  have hwhole : (id :: chain).length ≤ maxAliasHops := hshort
  rw [effectiveConstraint, effectiveConstraint, halias.constraintWithin_eq,
    htarget.constraintWithin_eq, List.take_of_length_le hwhole,
    List.take_of_length_le (Nat.le_of_lt hshort), List.findSome?_cons, hc]

end Target

/-! ### The three walks compared -/

/-- **The three walks.**  Let following the aliases of a type come to an end.  Then the type has a
chain that leads there.  If the chain is not of full length, the type is erroneous exactly if
some declaration on its chain is marked so, and the constraint in force for it is the first one
on its chain.  On a chain of full length the same holds of the chain without its end. -/
theorem walks_of_resolveAlias (h : s.resolveAlias id = .ok last) :
    ∃ chain, s.Chain id chain last ∧ chain.length ≤ maxAliasHops + 1 ∧
      (chain.length ≤ maxAliasHops →
        (s.isErroneous id = true ↔ ∃ u ∈ chain, (s.get u).isErroneous = true) ∧
        s.effectiveConstraint id = chain.findSome? fun u => (s.get u).constraint) ∧
      (chain.length = maxAliasHops + 1 →
        (s.isErroneous id = true ↔ ∃ u ∈ chain.dropLast, (s.get u).isErroneous = true) ∧
        s.effectiveConstraint id = chain.dropLast.findSome? fun u => (s.get u).constraint) := by
  obtain ⟨chain, hchain, hlength⟩ := exists_chain h
  have hmarks := hchain.erroneousWithin_iff maxAliasHops
  have hconstraint := hchain.constraintWithin_eq maxAliasHops
  refine ⟨chain, hchain, hlength, fun hshort => ?_, fun hfull => ?_⟩
  · rw [List.take_of_length_le hshort] at hmarks hconstraint
    exact ⟨hmarks, hconstraint⟩
  · have hfront : chain.take maxAliasHops = chain.dropLast := by
      rw [List.dropLast_eq_take, hfull, Nat.add_sub_cancel]
    rw [hfront] at hmarks hconstraint
    exact ⟨hmarks, hconstraint⟩

/-- The declaration of an alias of the declaration with the next number. -/
def aliasOfNext (i : TypeId) : Declaration :=
  { name := "Alias", kind := .referenced, target := some (.id (i + 1)) }

/-- An integer from 0 to 9, which is marked erroneous. -/
def markedDigit : Declaration :=
  { name := "Digit", kind := .integer,
    constraint := some (.range ⟨some ⟨.integer 0, false⟩, some ⟨.integer 9, false⟩⟩),
    stamp := { erroneous := true } }

/-- So many aliases, each of the next declaration, and a marked digit at the end. -/
def aliasesOfDigit (count : Nat) : Store where
  declarations := ((List.range count).map aliasOfNext ++ [markedDigit]).toArray

theorem get_aliasesOfDigit_of_lt {count i : Nat} (h : i < count) :
    (aliasesOfDigit count).get i = aliasOfNext i := by
  simp [get, aliasesOfDigit, List.getElem?_append, h]

theorem get_aliasesOfDigit_end (count : Nat) : (aliasesOfDigit count).get count = markedDigit := by
  simp [get, aliasesOfDigit]

/-- The chain of an alias goes through all aliases after it. -/
theorem aliasesOfDigit_chain (count k : Nat) (hk : k ≤ count) :
    (aliasesOfDigit count).Chain (count - k) (List.range' (count - k) (k + 1)) count := by
  induction k with
  | zero =>
    refine .last ?_
    rw [Nat.sub_zero, get_aliasesOfDigit_end]
    rfl
  | succ k ih =>
    have hnext : count - (k + 1) + 1 = count - k := by omega
    rw [List.range'_succ, hnext]
    refine .hop ?_ (ih (by omega))
    have hsize : (aliasesOfDigit count).size = count + 1 := by
      simp [size, aliasesOfDigit]
    have hlt : count - k < (aliasesOfDigit count).size := by
      rw [hsize]
      omega
    rw [nextAlias?, get_aliasesOfDigit_of_lt (by omega)]
    simp [aliasOfNext, Declaration.isAlias, resolveRef?, resolveRef, hnext, hlt]

/-- With one alias less than may be followed, the mark and the constraint of the end are seen. -/
theorem walks_of_resolveAlias_short : (aliasesOfDigit 63).resolveAlias 0 = .ok 63 ∧
    ∃ chain, (aliasesOfDigit 63).Chain 0 chain 63 ∧ chain.length ≤ 65 ∧
      (chain.length ≤ 64 →
        ((aliasesOfDigit 63).isErroneous 0 = true ↔
          ∃ u ∈ chain, ((aliasesOfDigit 63).get u).isErroneous = true) ∧
        (aliasesOfDigit 63).effectiveConstraint 0 =
          chain.findSome? fun u => ((aliasesOfDigit 63).get u).constraint) := by
  have hlast : (aliasesOfDigit 63).resolveAlias 0 = .ok 63 :=
    resolveAlias?_eq_some_iff.mp (by decide +kernel)
  obtain ⟨chain, hchain, hlength, hshort, -⟩ := walks_of_resolveAlias hlast
  exact ⟨hlast, chain, hchain, hlength, hshort⟩

/-- At the end of a chain of full length, a mark and a constraint are not seen. -/
theorem walks_miss_end : (aliasesOfDigit 64).resolveAlias 0 = .ok 64 ∧
    (aliasesOfDigit 64).Chain 0 (List.range' 0 65) 64 ∧
    ((aliasesOfDigit 64).get 64).isErroneous = true ∧
    (aliasesOfDigit 64).isErroneous 0 = false ∧
    ((List.range' 0 65).findSome? fun u => ((aliasesOfDigit 64).get u).constraint) =
      markedDigit.constraint ∧
    (aliasesOfDigit 64).effectiveConstraint 0 = none :=
  ⟨resolveAlias?_eq_some_iff.mp (by decide +kernel), aliasesOfDigit_chain 64 64 (Nat.le_refl 64),
    by decide +kernel, by decide +kernel, by decide +kernel, by decide +kernel⟩

end Store

end TestSpec
