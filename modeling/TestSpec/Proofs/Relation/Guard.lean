import Mathlib.Data.List.Nodup
import TestSpec.Proofs.Relation.Limits

/-!
# Calls of a guard that pair up

A guard is used well if every key that it lets in is taken off the path once.  The **calls**
of a guard pair up (`PathGuard.Paired`) if each `leave` takes a key that was entered and has
not been left since; the keys that are still to be left are **held**.

What carries everything is that the path consists of the keys that were on it at first and
of those that are held, no key being both and none being held twice (`PathGuard.Holds`).  One
call keeps that, so it holds after any part of calls that pair up.  Main statement:
`PathGuard.Paired.isBalanced`.
-/

namespace TestSpec

namespace PathGuard

variable {κ : Type}

/-- What is asked of a guard. -/
inductive Call (κ : Type) where
  | enter (key : κ)
  | leave (key : κ)

variable [Ord κ] [Std.TransOrd κ]

/-- The guard after calls, whatever they came to. -/
def after (g : PathGuard κ) : List (Call κ) → PathGuard κ
  | [] => g
  | .enter key :: rest => (g.enter key).2.after rest
  | .leave key :: rest => (g.leave key).after rest

/-- Calls that pair up, with the keys that are held before and after them. -/
inductive Paired : PathGuard κ → List κ → List (Call κ) → List κ → Prop
  | nil {g : PathGuard κ} {held : List κ} : Paired g held [] held
  | entered {g next : PathGuard κ} {key : κ} {held held' : List κ} {rest : List (Call κ)}
      (h : g.enter key = (.entered, next)) (hrest : Paired next (key :: held) rest held') :
      Paired g held (.enter key :: rest) held'
  | refused {g next : PathGuard κ} {key : κ} {entry : Entry} {held held' : List κ}
      {rest : List (Call κ)} (h : g.enter key = (entry, next)) (hentry : entry ≠ .entered)
      (hrest : Paired next held rest held') : Paired g held (.enter key :: rest) held'
  | left {g : PathGuard κ} {key : κ} {before behind held' : List κ} {rest : List (Call κ)}
      (hrest : Paired (g.leave key) (before ++ behind) rest held') :
      Paired g (before ++ key :: behind) (.leave key :: rest) held'

/-- The path of a guard is that of an earlier one with the keys that are held besides, each of them
once, and it is within its bound. -/
structure Holds (first g : PathGuard κ) (held : List κ) : Prop where
  nodup : held.Nodup
  new : ∀ key ∈ held, key ∉ first.path
  mem_path : ∀ key, key ∈ g.path ↔ key ∈ first.path ∨ key ∈ held
  depth_eq : g.depth = first.depth + held.length
  maxDepth_eq : g.maxDepth = first.maxDepth
  depth_le : g.depth ≤ g.maxDepth

/-- Calls leave the path as it was, and keep it in order on the way. -/
structure IsBalanced (g : PathGuard κ) (calls : List (Call κ)) : Prop where
  path_eq : (g.after calls).path = g.path
  holds : ∀ done, done <+: calls → ∃ held, g.Holds (g.after done) held
  refused : ∀ done key, done ++ [.enter key] <+: calls →
    ((g.after done).enter key).1 ≠ .entered →
      (g.after (done ++ [.enter key])).path = (g.after done).path

theorem after_append (g : PathGuard κ) (calls rest : List (Call κ)) :
    g.after (calls ++ rest) = (g.after calls).after rest := by
  induction calls generalizing g with
  | nil => rfl
  | cons call calls ih => cases call <;> exact ih _

/-- A key that is let in is new, there was room for it, and it is now on the path. -/
theorem place_of_entered {g next : PathGuard κ} {key : κ} (h : g.enter key = (.entered, next)) :
    key ∉ g.path ∧ g.depth < g.maxDepth ∧
      next.SamePlace { g with path := g.path.insert key } := by
  have hcases := g.enter_cases key
  simp only [h, Prod.mk.injEq] at hcases
  rcases hcases with ⟨_, ⟨-, rfl⟩, hplace⟩ | ⟨_, ⟨hentry, -⟩, -⟩ | ⟨_, _, ⟨rfl, -⟩, hlimit, -⟩
  · exact hplace
  · cases hentry
  · rcases hlimit with hlimit | hlimit <;> cases hlimit

/-- An attempt that is refused leaves the path as it was. -/
theorem samePlace_of_refused {g next : PathGuard κ} {key : κ} {entry : Entry}
    (h : g.enter key = (entry, next)) (hentry : entry ≠ .entered) : next.SamePlace g := by
  rcases g.enter_cases key with ⟨_, heq, -⟩ | ⟨_, heq, -, hsame⟩ | ⟨_, _, heq, -, hsame⟩
  · exact absurd (congrArg Prod.fst (h.symm.trans heq)) hentry
  · obtain ⟨-, rfl⟩ := Prod.mk.inj (h.symm.trans heq)
    exact hsame
  · obtain ⟨-, rfl⟩ := Prod.mk.inj (h.symm.trans heq)
    exact hsame

namespace Paired

variable {g : PathGuard κ} {held middle held' : List κ} {calls rest : List (Call κ)}

theorem append (h : g.Paired held calls middle) (hrest : (g.after calls).Paired middle rest held') :
    g.Paired held (calls ++ rest) held' := by
  induction h with
  | nil => exact hrest
  | entered h _ ih => exact .entered h (ih (by rwa [after, h] at hrest))
  | refused h hentry _ ih => exact .refused h hentry (ih (by rwa [after, h] at hrest))
  | left _ ih => exact .left (ih hrest)

/-- Calls between an entry and its leaving pair up with the two around them. -/
theorem around {next : PathGuard κ} {key : κ} (h : g.enter key = (.entered, next))
    (hinner : next.Paired (key :: held) calls (key :: held)) :
    g.Paired held (.enter key :: (calls ++ [.leave key])) held := by
  have hleave : (next.after calls).Paired ([] ++ key :: held) [.leave key] held := .left .nil
  exact .entered h (hinner.append hleave)

/-- The first of calls that pair up pair up themselves. -/
theorem exists_of_prefix (h : g.Paired held calls held') {done : List (Call κ)}
    (hdone : done <+: calls) : ∃ middle, g.Paired held done middle := by
  induction h generalizing done with
  | nil =>
    obtain rfl := List.prefix_nil.mp hdone
    exact ⟨_, .nil⟩
  | entered h _ ih =>
    rcases List.prefix_cons_iff.mp hdone with rfl | ⟨done, rfl, hprefix⟩
    · exact ⟨_, .nil⟩
    · obtain ⟨middle, hmiddle⟩ := ih hprefix
      exact ⟨middle, .entered h hmiddle⟩
  | refused h hentry _ ih =>
    rcases List.prefix_cons_iff.mp hdone with rfl | ⟨done, rfl, hprefix⟩
    · exact ⟨_, .nil⟩
    · obtain ⟨middle, hmiddle⟩ := ih hprefix
      exact ⟨middle, .refused h hentry hmiddle⟩
  | left _ ih =>
    rcases List.prefix_cons_iff.mp hdone with rfl | ⟨done, rfl, hprefix⟩
    · exact ⟨_, .nil⟩
    · obtain ⟨middle, hmiddle⟩ := ih hprefix
      exact ⟨middle, .left hmiddle⟩

end Paired

/-! ### One call -/

namespace Holds

variable {first g next : PathGuard κ} {key : κ} {held before behind : List κ}

theorem refl (hdepth : g.depth ≤ g.maxDepth) : g.Holds g [] :=
  ⟨List.nodup_nil, by simp, by simp, rfl, rfl, hdepth⟩

theorem refused {entry : Entry} (h : first.Holds g held) (hentered : g.enter key = (entry, next))
    (hentry : entry ≠ .entered) : first.Holds next held := by
  obtain ⟨hpath, hmaxDepth, -⟩ := samePlace_of_refused hentered hentry
  have hdepth : next.depth = g.depth := by rw [depth, hpath, depth]
  exact ⟨h.nodup, h.new, hpath ▸ h.mem_path, hdepth.trans h.depth_eq,
    hmaxDepth.trans h.maxDepth_eq, by rw [hdepth, hmaxDepth]; exact h.depth_le⟩

variable [Std.LawfulEqOrd κ]

theorem entered (h : first.Holds g held) (hentered : g.enter key = (.entered, next)) :
    first.Holds next (key :: held) := by
  obtain ⟨hnew, hdepth, hsame⟩ := place_of_entered hentered
  have hpath : next.path = g.path.insert key := hsame.path
  have hmaxDepth : next.maxDepth = g.maxDepth := hsame.maxDepth
  have hgrown : next.depth = g.depth + 1 := by
    simp [depth, hpath, Std.ExtTreeSet.size_insert, hnew]
  rw [h.mem_path, not_or] at hnew
  refine ⟨List.nodup_cons.mpr ⟨hnew.2, h.nodup⟩, List.forall_mem_cons.mpr ⟨hnew.1, h.new⟩,
    fun k => ?_, ?_, hmaxDepth.trans h.maxDepth_eq, ?_⟩
  · rw [hpath, Std.ExtTreeSet.mem_insert, Std.LawfulEqCmp.compare_eq_iff_eq, h.mem_path,
      List.mem_cons, eq_comm (a := k)]
    exact or_left_comm
  · rw [hgrown, h.depth_eq, List.length_cons, Nat.add_assoc]
  · omega

theorem left (h : first.Holds g (before ++ key :: behind)) :
    first.Holds (g.leave key) (before ++ behind) := by
  have hnodup := List.nodup_middle.mp h.nodup
  obtain ⟨hfresh, hrest⟩ := List.nodup_cons.mp hnodup
  have hmem : key ∈ g.path := (h.mem_path key).mpr (.inr (by simp))
  have hshrunk : (g.leave key).depth = g.depth - 1 := by
    simp [leave, depth, Std.ExtTreeSet.size_erase, hmem]
  have hlength : (before ++ key :: behind).length = (before ++ behind).length + 1 := by
    simp only [List.length_append, List.length_cons, Nat.add_assoc]
  have hnotFirst : key ∉ first.path := h.new key (by simp)
  refine ⟨hrest, fun k hk => h.new k ?_, fun k => ?_, ?_, h.maxDepth_eq, ?_⟩
  · rw [List.mem_append, List.mem_cons]
    exact (List.mem_append.mp hk).imp_right .inr
  · rw [leave, Std.ExtTreeSet.mem_erase, ne_eq, Std.LawfulEqCmp.compare_eq_iff_eq, h.mem_path]
    by_cases hk : key = k
    · subst hk
      simp [hnotFirst, hfresh]
    · simp [hk, Ne.symm hk]
  · have hdepth := h.depth_eq
    omega
  · have hdepth := h.depth_le
    have hsame : (g.leave key).maxDepth = g.maxDepth := rfl
    omega

/-- Calls that pair up keep the path in order. -/
theorem of_paired {calls : List (Call κ)} {held' : List κ} (hpaired : g.Paired held calls held')
    (h : first.Holds g held) : first.Holds (g.after calls) held' := by
  induction hpaired with
  | nil => exact h
  | entered hentered _ ih =>
    rw [after, hentered]
    exact ih (h.entered hentered)
  | refused hentered hentry _ ih =>
    rw [after, hentered]
    exact ih (h.refused hentered hentry)
  | left _ ih => exact ih h.left

/-- Where nothing is held any more, the path is what it was at first. -/
theorem path_eq (h : first.Holds g []) : g.path = first.path := by
  apply Std.ExtTreeSet.ext_mem
  intro key
  rw [h.mem_path]
  simp

end Holds

/-- **Calls that pair up are balanced.**  Where each key that was entered is left once, the path is
at last what it was at first; on the way it consists of the keys of then and of those that are held,
each of them once, and is never longer than it may be; and an attempt that is refused changes
nothing on it. -/
theorem Paired.isBalanced [Std.LawfulEqOrd κ] {g : PathGuard κ} {calls : List (Call κ)}
    (hdepth : g.depth ≤ g.maxDepth) (h : g.Paired [] calls []) : g.IsBalanced calls where
  path_eq := (Holds.of_paired h (.refl hdepth)).path_eq
  holds done hdone := by
    obtain ⟨held, hpaired⟩ := h.exists_of_prefix hdone
    exact ⟨held, .of_paired hpaired (.refl hdepth)⟩
  refused done key _ hrefused := by
    rw [after_append]
    exact (samePlace_of_refused rfl hrefused).path

/-- On the way, the path is never longer than it may be. -/
theorem IsBalanced.depth_le {g : PathGuard κ} {calls done : List (Call κ)}
    (h : g.IsBalanced calls) (hdone : done <+: calls) : (g.after done).depth ≤ g.maxDepth := by
  obtain ⟨held, hholds⟩ := h.holds done hdone
  exact hholds.maxDepth_eq ▸ hholds.depth_le

end PathGuard

end TestSpec
