import TestSpec.Proofs.Check.Template

/-!
# The nodes of a template

The templates that a template is made of are its **parts**, and the template, its parts,
their parts and so on are its **nodes**.  A specific value in a template is no part of it.

Parts are nested less deep than the template, so what passes from the parts of a template
to the template holds of all templates (`Template.induction_parts`).
-/

namespace TestSpec

/-- The templates that a selector is made of. -/
def Selector.parts : Selector → List Template
  | .record _ fields => fields.map FieldTemplate.template
  | .union _ _ template | .decoded _ template => [template]
  | .elements _ items | .valueList items | .complement items => items
  | .uninitialized | .omit | .any | .anyOrOmit | .specific _ | .range _ | .pattern _ => []

namespace Template

variable {t u w : Template}

/-- The templates that a template is made of. -/
def parts (t : Template) : List Template := t.selector.parts

theorem height_lt_of_mem_parts (h : u ∈ t.parts) : u.height < t.height := by
  have hle : u.height ≤ selectorHeight t.selector := by
    rw [parts] at h
    cases hselector : t.selector with
    | record kind fields =>
      rw [hselector] at h
      obtain ⟨f, hf, rfl⟩ := List.mem_map.mp h
      exact height_le_fieldsHeight hf
    | union kind alternative template | decoded target template =>
      rw [hselector] at h
      obtain rfl := List.mem_singleton.mp h
      exact Nat.le_refl _
    | elements kind items | valueList items | complement items =>
      rw [hselector] at h
      exact height_le_itemsHeight h
    | _ =>
      rw [hselector] at h
      cases h
  rw [height_eq t]
  exact Nat.lt_succ_of_le hle

/-- What holds of a template wherever it holds of its parts holds of all templates. -/
@[elab_as_elim]
theorem induction_parts {motive : Template → Prop}
    (step : ∀ t, (∀ u ∈ t.parts, motive u) → motive t) (t : Template) : motive t :=
  step t fun u _ => induction_parts step u
termination_by t.height
decreasing_by exact height_lt_of_mem_parts ‹_›

/-- The nodes of a template: the template itself, and the nodes of its parts. -/
inductive HasNode : Template → Template → Prop
  | self {t : Template} : HasNode t t
  | part {t w u : Template} (hpart : w ∈ t.parts) (hnode : HasNode w u) : HasNode t u

/-- What holds of a template and of the nodes of its parts holds of its nodes. -/
theorem forall_node_of_parts {p : Template → Prop} (ht : p t)
    (hparts : ∀ w ∈ t.parts, ∀ u, w.HasNode u → p u) (u : Template) (hu : t.HasNode u) : p u := by
  cases hu with
  | self => exact ht
  | part hpart hnode => exact hparts _ hpart u hnode

end Template

end TestSpec
