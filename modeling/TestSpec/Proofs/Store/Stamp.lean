import TestSpec.Proofs.Store.Resolve

/-!
# Check stamps, and stores that differ in them alone

A pass claims the check of a stamp once (`CheckStamp.claim?_same_pass`).

Check stamps are the only part of a store that changes once its declarations are
made.  Two stores are the same **but for stamps** if they are equal after all stamps
are taken off (`Store.unstamped`).  References, alias chains and constraints are the
same in both; whether a type is erroneous may differ, but only where a mark differs on
its alias chain.
-/

namespace TestSpec

namespace CheckStamp

variable {stamp : CheckStamp} {pass : Pass}

theorem claim?_of_needsCheck (h : stamp.needsCheck pass = true) :
    stamp.claim? pass = some ⟨some pass, false⟩ := by
  rw [claim?, if_pos h]

theorem claim?_eq_none_iff : stamp.claim? pass = none ↔ stamp.needsCheck pass = false := by
  cases h : stamp.needsCheck pass with
  | true => simp [claim?_of_needsCheck h]
  | false => simp [claim?, h]

/-- A pass claims a check once. -/
@[simp] theorem claim?_same_pass (pass : Pass) (erroneous : Bool) :
    claim? ⟨some pass, erroneous⟩ pass = none :=
  claim?_eq_none_iff.mpr (by simp [needsCheck])

end CheckStamp

/-- A declaration without its check stamp. -/
def Declaration.unstamped (d : Declaration) : Declaration := { d with stamp := {} }

namespace Declaration

variable (d : Declaration)

@[simp] theorem name_unstamped : d.unstamped.name = d.name := rfl

@[simp] theorem target_unstamped : d.unstamped.target = d.target := rfl

@[simp] theorem isAlias_unstamped : d.unstamped.isAlias = d.isAlias := rfl

@[simp] theorem constraint_unstamped : d.unstamped.constraint = d.constraint := rfl

end Declaration

namespace Store

/-- A store without its check stamps. -/
def unstamped (s : Store) : Store := ⟨s.declarations.map Declaration.unstamped⟩

variable (s : Store)

@[simp] theorem size_unstamped : s.unstamped.size = s.size := by
  simp [unstamped, size]

@[simp] theorem get_unstamped (id : TypeId) : s.unstamped.get id = (s.get id).unstamped := by
  simp only [unstamped, get, Array.getD_eq_getD_getElem?, Array.getElem?_map]
  cases s.declarations[id]? <;> rfl

@[simp] theorem name_unstamped (id : TypeId) : s.unstamped.name id = s.name id := by
  simp [name]

/-- Another stamp leaves the rest of the store as it is. -/
theorem unstamped_setStamp (id : TypeId) (stamp : CheckStamp) :
    (s.setStamp id stamp).unstamped = s.unstamped := by
  simp only [unstamped, setStamp, mk.injEq]
  apply Array.ext_getElem?
  intro i
  simp only [Array.getElem?_map, Array.getElem?_modify]
  split
  · rename_i hid
    subst hid
    cases s.declarations[id]? <;> rfl
  · rfl

theorem lookup_unstamped (name : String) : s.unstamped.lookup name = s.lookup name := by
  have hbelow (count : Nat) : s.unstamped.lookupBelow name count = s.lookupBelow name count := by
    induction count with
    | zero => rfl
    | succ count ih => simp [lookupBelow, ih]
  simp [lookup, hbelow]

theorem resolveRef_unstamped (r : TypeRef) : s.unstamped.resolveRef r = s.resolveRef r := by
  cases r <;> simp [resolveRef, lookup_unstamped]

theorem resolveRef?_unstamped (r : TypeRef) : s.unstamped.resolveRef? r = s.resolveRef? r := by
  simp [resolveRef?, resolveRef_unstamped]

theorem nextAlias?_unstamped (id : TypeId) : s.unstamped.nextAlias? id = s.nextAlias? id := by
  simp [nextAlias?, funext s.resolveRef?_unstamped]

theorem followAlias_unstamped (hops : Nat) (passed : List TypeId) (id : TypeId) :
    s.unstamped.followAlias hops passed id = s.followAlias hops passed id := by
  have hname : s.unstamped.name = s.name := funext s.name_unstamped
  induction hops generalizing passed id with
  | zero => simp [followAlias, hname]
  | succ hops ih =>
    simp [followAlias, hname, ih, resolveRef_unstamped]

theorem resolveAlias?_unstamped (id : TypeId) :
    s.unstamped.resolveAlias? id = s.resolveAlias? id := by
  simp only [resolveAlias?, resolveAlias, followAlias_unstamped]

theorem effectiveConstraint_unstamped (id : TypeId) :
    s.unstamped.effectiveConstraint id = s.effectiveConstraint id := by
  have hwithin (count : Nat) : ∀ u,
      s.unstamped.constraintWithin count u = s.constraintWithin count u := by
    induction count with
    | zero => exact fun _ => rfl
    | succ count ih =>
      intro u
      simp [constraintWithin, nextAlias?_unstamped, funext ih]
  exact hwithin _ id

/-! ### Stores that are the same but for stamps -/

variable {s} {s' : Store}

theorem get_congr (h : s.unstamped = s'.unstamped) (id : TypeId) :
    (s.get id).unstamped = (s'.get id).unstamped := by
  rw [← get_unstamped, h, get_unstamped]

theorem kind_congr (h : s.unstamped = s'.unstamped) (id : TypeId) :
    (s.get id).kind = (s'.get id).kind := by
  have hget := congrArg Declaration.kind (get_congr h id)
  exact hget

theorem dialect_congr (h : s.unstamped = s'.unstamped) (id : TypeId) :
    (s.get id).dialect = (s'.get id).dialect := by
  have hget := congrArg Declaration.dialect (get_congr h id)
  exact hget

theorem name_congr (h : s.unstamped = s'.unstamped) (id : TypeId) : s.name id = s'.name id := by
  rw [← name_unstamped, h, name_unstamped]

theorem resolveRef?_congr (h : s.unstamped = s'.unstamped) (r : TypeRef) :
    s.resolveRef? r = s'.resolveRef? r := by
  rw [← resolveRef?_unstamped, h, resolveRef?_unstamped]

theorem nextAlias?_congr (h : s.unstamped = s'.unstamped) (id : TypeId) :
    s.nextAlias? id = s'.nextAlias? id := by
  rw [← nextAlias?_unstamped, h, nextAlias?_unstamped]

theorem resolveAlias?_congr (h : s.unstamped = s'.unstamped) (id : TypeId) :
    s.resolveAlias? id = s'.resolveAlias? id := by
  rw [← resolveAlias?_unstamped, h, resolveAlias?_unstamped]

theorem lookup_congr (h : s.unstamped = s'.unstamped) (name : String) :
    s.lookup name = s'.lookup name := by
  rw [← lookup_unstamped, h, lookup_unstamped]

theorem fields_congr (h : s.unstamped = s'.unstamped) (id : TypeId) :
    (s.get id).fields = (s'.get id).fields := by
  have hget := congrArg Declaration.fields (get_congr h id)
  exact hget

theorem element_congr (h : s.unstamped = s'.unstamped) (id : TypeId) :
    (s.get id).element = (s'.get id).element := by
  have hget := congrArg Declaration.element (get_congr h id)
  exact hget

theorem resolvedKind_congr (h : s.unstamped = s'.unstamped) (id : TypeId) :
    s.resolvedKind id = s'.resolvedKind id := by
  simp only [resolvedKind, resolveAlias?_congr h, kind_congr h, dialect_congr h]

theorem fieldType_congr (h : s.unstamped = s'.unstamped) (id : TypeId) (name : String) :
    s.fieldType id name = s'.fieldType id name := by
  cases hlast : s.resolveAlias? id with
  | none => simp [fieldType, hlast, ← resolveAlias?_congr h]
  | some last =>
    rw [fieldType_eq hlast, fieldType_eq ((resolveAlias?_congr h id).symm.trans hlast)]
    simp only [Declaration.field?, fields_congr h, resolveRef?_congr h]

theorem elementType_congr (h : s.unstamped = s'.unstamped) (id : TypeId) :
    s.elementType id = s'.elementType id := by
  cases hlast : s.resolveAlias? id with
  | none => simp [elementType, hlast, ← resolveAlias?_congr h]
  | some last =>
    rw [elementType_eq hlast, elementType_eq ((resolveAlias?_congr h id).symm.trans hlast)]
    simp only [element_congr h, funext (resolveRef?_congr h)]

theorem effectiveConstraint_congr (h : s.unstamped = s'.unstamped) (id : TypeId) :
    s.effectiveConstraint id = s'.effectiveConstraint id := by
  rw [← effectiveConstraint_unstamped, h, effectiveConstraint_unstamped]

/-- Types that reach declarations with the same marks are erroneous alike. -/
theorem isErroneous_congr (h : s.unstamped = s'.unstamped) {type : TypeId}
    (hmarks : ∀ u, s.Reaches type u → (s.get u).isErroneous = (s'.get u).isErroneous) :
    s.isErroneous type = s'.isErroneous type := by
  have hwithin (count : Nat) : ∀ u, s.Reaches type u →
      s.erroneousWithin count u = s'.erroneousWithin count u := by
    induction count with
    | zero => exact fun _ _ => rfl
    | succ count ih =>
      intro u hu
      simp only [erroneousWithin, hmarks u hu, ← nextAlias?_congr h u]
      cases hv : s.nextAlias? u with
      | none => rfl
      | some v => simp only [Option.any_some, ih v (hu.target hv)]
  exact hwithin _ _ .refl

/-- Types that are erroneous alike are silenced alike. -/
theorem isSilenced_congr (h : s.unstamped = s'.unstamped) {type : TypeId}
    (hmark : s.isErroneous type = s'.isErroneous type) :
    s.isSilenced type = s'.isSilenced type := by
  rw [isSilenced, isSilenced, hmark, resolveAlias?_congr h]

end Store

end TestSpec
