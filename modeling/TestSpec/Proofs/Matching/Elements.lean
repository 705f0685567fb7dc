import Mathlib.Data.List.Forall2
import TestSpec.Proofs.Matching.Safety

/-!
# Cutting the elements of a list into runs

A list template is matched by a table where a bare `*` stands among its items, and item by
item otherwise.  What both decide can be said without either: the elements are **cut** into
consecutive runs, one for each item in order, such that a bare `*` takes any run, the empty
one included, and every other item takes one element that matches it (`Template.Cuts`).

The table holds, after some of the items, the positions up to which these items take the
elements.  That is its invariant, for every prefix of the items and every prefix of the
elements (`Template.getElem?_matchesRuns`), and the last position tells of all elements.

Main statement: `Template.matchesElements_iff_cuts`.  Whatever the table answers, it answers
whether there is a cut; and where no item is a bare `*` it gives the answer, or the error,
that matching item by item gives.
-/

namespace TestSpec

namespace Template

variable {ctx : MatchContext} {depth : Nat} {item : Template} {items : List Template}
  {values : List Value}

/-! ### Cuts -/

/-- A bare `*` takes any run of elements, any other item one element that matches it. -/
def Takes (ctx : MatchContext) (depth : Nat) (item : Template) (run : List Value) : Prop :=
  item.isRun = true ∨ ∃ v, run = [v] ∧ matchAt ctx depth item v = .ok true

/-- The values can be cut into consecutive runs that the items take, one run for each item. -/
def Cuts (ctx : MatchContext) (depth : Nat) (items : List Template) (values : List Value) : Prop :=
  ∃ runs : List (List Value), values = runs.flatten ∧ List.Forall₂ (Takes ctx depth) items runs

theorem cuts_nil : Cuts ctx depth [] values ↔ values = [] := by
  constructor
  · rintro ⟨runs, rfl, hruns⟩
    obtain rfl := List.forall₂_nil_left_iff.mp hruns
    rfl
  · rintro rfl
    exact ⟨[], rfl, .nil⟩

theorem cuts_cons : Cuts ctx depth (item :: items) values ↔
    ∃ run rest, values = run ++ rest ∧ Takes ctx depth item run ∧ Cuts ctx depth items rest := by
  constructor
  · rintro ⟨runs, rfl, hruns⟩
    obtain ⟨run, others, hrun, hothers, rfl⟩ := List.forall₂_cons_left_iff.mp hruns
    exact ⟨run, others.flatten, List.flatten_cons, hrun, others, rfl, hothers⟩
  · rintro ⟨run, _, rfl, hrun, others, rfl, hothers⟩
    exact ⟨run :: others, List.flatten_cons.symm, .cons hrun hothers⟩

/-- A bare `*` in front may take any number of values. -/
theorem cuts_cons_of_isRun (h : item.isRun = true) : Cuts ctx depth (item :: items) values ↔
    ∃ n ≤ values.length, Cuts ctx depth items (values.drop n) := by
  rw [cuts_cons]
  constructor
  · rintro ⟨run, rest, rfl, -, hrest⟩
    refine ⟨run.length, ?_, by rwa [List.drop_left]⟩
    rw [List.length_append]
    exact Nat.le_add_right ..
  · rintro ⟨n, -, hrest⟩
    exact ⟨values.take n, values.drop n, (List.take_append_drop n values).symm, .inl h, hrest⟩

/-- Any other item in front takes the first value. -/
theorem cuts_cons_of_not_isRun (h : item.isRun = false) : Cuts ctx depth (item :: items) values ↔
    ∃ v rest, values = v :: rest ∧ matchAt ctx depth item v = .ok true ∧
      Cuts ctx depth items rest := by
  rw [cuts_cons]
  constructor
  · rintro ⟨run, rest, rfl, hrun, hrest⟩
    obtain hrun | ⟨v, rfl, hv⟩ := hrun
    · rw [h] at hrun
      cases hrun
    · exact ⟨v, rest, rfl, hv, hrest⟩
  · rintro ⟨v, rest, rfl, hv, hrest⟩
    exact ⟨[v], rest, rfl, .inr ⟨v, rfl, hv⟩, hrest⟩

/-- Among the values from `i` up to `j`, a bare `*` in front takes those up to some position. -/
theorem cuts_window_of_isRun (h : item.isRun = true) {i j : Nat} (hij : i ≤ j)
    (hj : j ≤ values.length) : Cuts ctx depth (item :: items) ((values.take j).drop i) ↔
      ∃ k, i ≤ k ∧ k ≤ j ∧ Cuts ctx depth items ((values.take j).drop k) := by
  rw [cuts_cons_of_isRun h]
  simp only [List.drop_drop, List.length_drop, List.length_take, Nat.min_eq_left hj]
  constructor
  · rintro ⟨n, hn, hcuts⟩
    exact ⟨i + n, Nat.le_add_right i n, by omega, hcuts⟩
  · rintro ⟨k, hik, hk, hcuts⟩
    exact ⟨k - i, Nat.sub_le_sub_right hk i, by rwa [Nat.add_sub_cancel' hik]⟩

/-- Among the values from `i` up to `j`, any other item in front takes the one at `i`. -/
theorem cuts_window_of_not_isRun (h : item.isRun = false) {i j : Nat} :
    Cuts ctx depth (item :: items) ((values.take j).drop i) ↔
      i < j ∧ (∃ v, values[i]? = some v ∧ matchAt ctx depth item v = .ok true) ∧
        Cuts ctx depth items ((values.take j).drop (i + 1)) := by
  rw [cuts_cons_of_not_isRun h]
  constructor
  · rintro ⟨v, rest, hcut, hmatch, hcuts⟩
    have hlt : i < (values.take j).length := by
      have hlength := congrArg List.length hcut
      rw [List.length_drop, List.length_cons] at hlength
      omega
    rw [List.drop_eq_getElem_cons hlt, List.getElem_take] at hcut
    obtain ⟨rfl, rfl⟩ := List.cons.inj hcut
    rw [List.length_take, Nat.lt_min] at hlt
    exact ⟨hlt.1, ⟨_, List.getElem?_eq_getElem hlt.2, hmatch⟩, hcuts⟩
  · rintro ⟨hij, ⟨v, hv, hmatch⟩, hcuts⟩
    obtain ⟨hi, rfl⟩ := List.getElem?_eq_some_iff.mp hv
    have hlt : i < (values.take j).length := by
      rw [List.length_take]
      omega
    refine ⟨_, _, ?_, hmatch, hcuts⟩
    rw [List.drop_eq_getElem_cons hlt, List.getElem_take]

/-- Without a bare `*`, a cut pairs the items with the values. -/
theorem cuts_iff_forall₂ (h : items.any isRun = false) : Cuts ctx depth items values ↔
    List.Forall₂ (fun item v => matchAt ctx depth item v = .ok true) items values := by
  induction items generalizing values with
  | nil => rw [cuts_nil, List.forall₂_nil_left_iff]
  | cons item items ih =>
    rw [List.any_cons, Bool.or_eq_false_iff] at h
    rw [cuts_cons_of_not_isRun h.1, List.forall₂_cons_left_iff]
    constructor
    · rintro ⟨v, rest, rfl, hv, hrest⟩
      exact ⟨v, rest, hv, (ih h.2).mp hrest, rfl⟩
    · rintro ⟨v, rest, hv, hrest, rfl⟩
      exact ⟨v, rest, rfl, hv, (ih h.2).mpr hrest⟩

/-! ### One item of the table -/

/-- Taking a run reaches every position from the first reached one on. -/
theorem getElem?_reachRun (reached : List Bool) :
    (reachRun reached).length = reached.length ∧ ∀ k, (reachRun reached)[k]? = some true ↔
      k < reached.length ∧ ∃ i ≤ k, reached[i]? = some true := by
  induction reached with
  | nil => simp [reachRun]
  | cons first rest ih =>
    obtain ⟨hlength, hreached⟩ := ih
    cases first with
    | true =>
      rw [reachRun]
      refine ⟨by simp, fun k => ?_⟩
      have hfirst : ∃ i ≤ k, (true :: rest)[i]? = some true := ⟨0, Nat.zero_le k, rfl⟩
      simp [hfirst, List.getElem?_replicate]
    | false =>
      rw [reachRun]
      refine ⟨by simp [hlength], fun k => ?_⟩
      cases k with
      | zero => simp
      | succ k =>
        rw [List.getElem?_cons_succ, hreached, List.length_cons, Nat.add_lt_add_iff_right]
        refine and_congr_right fun _ => ?_
        constructor
        · rintro ⟨i, hi, hrest⟩
          exact ⟨i + 1, Nat.succ_le_succ hi, hrest⟩
        · rintro ⟨i, hi, hrest⟩
          cases i with
          | zero => cases hrest
          | succ i => exact ⟨i, Nat.le_of_succ_le_succ hi, hrest⟩

/-- The first position is asked where it is reached, and the others after it. -/
theorem reachOne_cons_eq_ok {isMatch : Value → Except MatchError Bool} {isReached : Bool}
    {reached next : List Bool} {value : Value}
    (h : reachOne isMatch (isReached :: reached) (value :: values) = .ok next) :
    ∃ here rest, (if isReached then isMatch value else .ok false) = .ok here ∧
      reachOne isMatch reached values = .ok rest ∧ here :: rest = next := by
  rw [reachOne] at h
  cases isReached <;>
  · obtain ⟨here, hhere, h⟩ := bind_eq_ok.mp h
    obtain ⟨rest, hrest, h⟩ := bind_eq_ok.mp h
    exact ⟨here, rest, hhere, hrest, pure_eq_ok.mp h⟩

/-- Taking one element passes the reached positions where the element matches. -/
theorem getElem?_reachOne {isMatch : Value → Except MatchError Bool} {reached next : List Bool}
    (h : reachOne isMatch reached values = .ok next) :
    next.length = min reached.length values.length ∧ ∀ i : Nat, next[i]? = some true ↔
      reached[i]? = some true ∧ ∃ v, values[i]? = some v ∧ isMatch v = .ok true := by
  induction reached generalizing values next with
  | nil =>
    obtain rfl : [] = next := by simpa [reachOne] using h
    simp
  | cons isReached reached ih =>
    cases values with
    | nil =>
      obtain rfl : [] = next := by simpa [reachOne] using h
      simp
    | cons value values =>
      obtain ⟨here, rest, hhere, hrest, rfl⟩ := reachOne_cons_eq_ok h
      obtain ⟨hlength, hpassed⟩ := ih hrest
      refine ⟨by simp only [List.length_cons, hlength]; omega, fun i => ?_⟩
      cases i with
      | zero =>
        cases isReached with
        | true =>
          simp only [if_true] at hhere
          simp [hhere]
        | false =>
          simp only [Bool.false_eq_true, if_false] at hhere
          cases hhere
          simp
      | succ i => exact hpassed i

/-! ### The table -/

/-- After the items, a position is reached exactly if the items take the elements from some
position that was reached before up to it. -/
theorem getElem?_matchesRuns {reached out : List Bool}
    (h : matchesRuns ctx depth values reached items = .ok out)
    (hlength : reached.length = values.length + 1) :
    out.length = values.length + 1 ∧ ∀ j ≤ values.length, (out[j]? = some true ↔
      ∃ i ≤ j, reached[i]? = some true ∧ Cuts ctx depth items ((values.take j).drop i)) := by
  induction items generalizing reached with
  | nil =>
    obtain rfl : reached = out := Except.ok.inj h
    refine ⟨hlength, fun j hj => ?_⟩
    simp only [cuts_nil, List.drop_eq_nil_iff, List.length_take, Nat.min_eq_left hj]
    constructor
    · exact fun hreached => ⟨j, Nat.le_refl j, hreached, Nat.le_refl j⟩
    · rintro ⟨i, hi, hreached, hge⟩
      rwa [Nat.le_antisymm hi hge] at hreached
  | cons item rest ih =>
    rw [matchesRuns] at h
    cases hrun : item.isRun with
    | true =>
      rw [if_pos hrun] at h
      obtain ⟨hsame, hreached⟩ := getElem?_reachRun reached
      obtain ⟨hout, hiff⟩ := ih h (hsame.trans hlength)
      refine ⟨hout, fun j hj => ?_⟩
      simp only [hiff j hj, hreached]
      constructor
      · rintro ⟨k, hk, ⟨-, i, hik, hi⟩, hcuts⟩
        have hij := Nat.le_trans hik hk
        exact ⟨i, hij, hi, (cuts_window_of_isRun hrun hij hj).mpr ⟨k, hik, hk, hcuts⟩⟩
      · rintro ⟨i, hij, hi, hcuts⟩
        obtain ⟨k, hik, hk, hcuts⟩ := (cuts_window_of_isRun hrun hij hj).mp hcuts
        exact ⟨k, hk, ⟨by omega, i, hik, hi⟩, hcuts⟩
    | false =>
      rw [if_neg (by simp [hrun])] at h
      split at h
      · cases h
      rename_i next hnext
      obtain ⟨hsame, hpassed⟩ := getElem?_reachOne hnext
      obtain ⟨hout, hiff⟩ := ih h (by rw [List.length_cons, hsame]; omega)
      refine ⟨hout, fun j hj => ?_⟩
      simp only [hiff j hj, cuts_window_of_not_isRun hrun]
      constructor
      · rintro ⟨k, hk, hnow, hcuts⟩
        -- the table puts an unreached position in front, so `k` follows a position passed
        obtain _ | i := k
        · cases hnow
        obtain ⟨hi, hmatch⟩ := (hpassed i).mp hnow
        exact ⟨i, Nat.le_of_succ_le hk, hi, hk, hmatch, hcuts⟩
      · rintro ⟨i, -, hi, hlt, hmatch, hcuts⟩
        exact ⟨i + 1, hlt, (hpassed i).mpr ⟨hi, hmatch⟩, hcuts⟩

/-- The table tells whether there is a cut. -/
theorem matchesTable_iff_cuts {b : Bool} (h : matchesTable ctx depth items values = .ok b) :
    b = true ↔ Cuts ctx depth items values := by
  obtain ⟨out, hout, rfl⟩ := map_eq_ok.mp h
  obtain ⟨hlength, hiff⟩ := getElem?_matchesRuns hout (by simp [reachNone])
  have hlast : out.getLast? = out[values.length]? := by
    rw [List.getLast?_eq_getElem?, hlength, Nat.add_sub_cancel]
  rw [beq_iff_eq, hlast, hiff values.length (Nat.le_refl _), List.take_length]
  constructor
  · rintro ⟨i, -, hi, hcuts⟩
    obtain _ | i := i
    · exact hcuts
    · rw [reachNone, List.getElem?_cons_succ, List.getElem?_replicate] at hi
      split at hi <;> cases hi
  · exact fun hcuts => ⟨0, Nat.zero_le _, rfl, hcuts⟩

/-- Where each item is a bare `*` or matches the value at its own place, all values are taken, if no
item fails on a value. -/
theorem matchesRuns_diagonal
    (hitems : List.Forall₂ (fun item v => item.isRun = true ∨ matchAt ctx depth item v = .ok true)
      items values)
    (hanswers : ∀ item ∈ items, ∀ v ∈ values, ∃ answer, matchAt ctx depth item v = .ok answer) :
    ∃ out, matchesRuns ctx depth values (reachNone values.length) items = .ok out ∧
      out.getLast? = some true := by
  obtain ⟨out, hout⟩ := matchesRuns_ok (reachNone values.length) hanswers
  have htable : matchesTable ctx depth items values = .ok (out.getLast? == some true) := by
    rw [matchesTable_eq, hout]
    rfl
  have hcuts : Cuts ctx depth items values := by
    refine ⟨values.map ([·]), ?_, List.forall₂_map_right_iff.mpr ?_⟩
    · rw [← List.flatMap_def, List.flatMap_singleton']
    · exact hitems.imp fun item v h => h.imp id fun hmatch => ⟨v, rfl, hmatch⟩
  exact ⟨out, hout, by simpa using (matchesTable_iff_cuts htable).mpr hcuts⟩

/-! ### Item by item -/

/-- Matching item by item succeeds exactly if each item matches the value at its place. -/
theorem matchesEach_eq_true_iff (hlength : items.length = values.length) :
    matchesEach ctx depth items values = .ok true ↔
      List.Forall₂ (fun item v => matchAt ctx depth item v = .ok true) items values := by
  induction items generalizing values with
  | nil =>
    obtain rfl := List.eq_nil_of_length_eq_zero hlength.symm
    simp [matchesEach]
  | cons item items ih =>
    obtain _ | ⟨v, values⟩ := values
    · cases hlength
    rw [List.forall₂_cons, matchesEach]
    split
    · rename_i hmatch
      rw [ih (Nat.succ.inj hlength), and_iff_right hmatch]
    · rename_i hmatch
      exact ⟨fun h => absurd h hmatch, fun hall => absurd hall.1 hmatch⟩

/-- Unreached positions in front stay so, whatever values stand there. -/
theorem reachOne_replicate_append (isMatch : Value → Except MatchError Bool)
    (before values : List Value) (reached : List Bool) :
    reachOne isMatch (List.replicate before.length false ++ reached) (before ++ values) =
      (reachOne isMatch reached values).map (List.replicate before.length false ++ ·) := by
  induction before with
  | nil => cases h : reachOne isMatch reached values <;> simp [h, Except.map]
  | cons v before ih =>
    rw [List.length_cons, List.replicate_succ, List.cons_append, List.cons_append, reachOne, ih]
    cases reachOne isMatch reached values <;> rfl

/-- Where no position is reached none is, and no item is asked. -/
theorem reachOne_replicate (isMatch : Value → Except MatchError Bool) (values : List Value) :
    reachOne isMatch (List.replicate (values.length + 1) false) values =
      .ok (List.replicate values.length false) := by
  have h := reachOne_replicate_append isMatch values [] [false]
  rw [List.append_nil, ← List.replicate_succ'] at h
  rw [h]
  simp [reachOne, Except.map]

theorem matchesRuns_replicate (h : items.any isRun = false) :
    matchesRuns ctx depth values (List.replicate (values.length + 1) false) items =
      .ok (List.replicate (values.length + 1) false) := by
  induction items with
  | nil => rfl
  | cons item items ih =>
    rw [List.any_cons, Bool.or_eq_false_iff] at h
    rw [matchesRuns, if_neg (by simp [h.1]), reachOne_replicate]
    exact ih h.2

/-- Without a bare `*` one position is reached after each item, and matching goes on there until an
item does not match or fails. -/
theorem matchesRuns_eq_matchesEach (h : items.any isRun = false) (before : List Value)
    (hlength : items.length = values.length) :
    ((matchesRuns ctx depth (before ++ values)
        (List.replicate before.length false ++ reachNone values.length) items).map fun reached =>
      reached.getLast? == some true) = matchesEach ctx depth items values := by
  induction items generalizing before values with
  | nil =>
    obtain rfl := List.eq_nil_of_length_eq_zero hlength.symm
    simp [matchesRuns, matchesEach, reachNone, Except.map]
  | cons item items ih =>
    obtain _ | ⟨v, values⟩ := values
    · cases hlength
    rw [List.any_cons, Bool.or_eq_false_iff] at h
    have hhere : reachOne (matchAt ctx depth item) (reachNone (values.length + 1)) (v :: values) =
        (matchAt ctx depth item v).map (· :: List.replicate values.length false) := by
      rw [reachNone, reachOne, reachOne_replicate]
      cases matchAt ctx depth item v <;> rfl
    rw [matchesRuns, if_neg (by simp [h.1]), List.length_cons, reachOne_replicate_append, hhere,
      matchesEach]
    cases hmatch : matchAt ctx depth item v with
    | error e => rfl
    | ok answer =>
      cases answer with
      | true =>
        have hnext := ih h.2 (before ++ [v]) (Nat.succ.inj hlength)
        rw [List.append_assoc, List.length_append, List.length_singleton,
          List.replicate_succ] at hnext
        exact hnext
      | false =>
        have hunreached : false :: (List.replicate before.length false ++
            false :: List.replicate values.length false) =
              List.replicate ((before ++ v :: values).length + 1) false := by
          rw [← List.replicate_succ, List.replicate_append_replicate, ← List.replicate_succ,
            List.length_append, List.length_cons]
        simp only [Except.map, hunreached, matchesRuns_replicate h.2, List.getLast?_replicate]
        rfl

/-- If matching the items against the values has an answer, it is whether there is a cut. -/
theorem matchesElements_cuts {b : Bool} (h : matchesElements ctx depth items values = .ok b) :
    b = true ↔ Cuts ctx depth items values := by
  rw [matchesElements_eq] at h
  split at h
  · exact matchesTable_iff_cuts h
  rename_i hrun
  rw [Bool.not_eq_true] at hrun
  rw [cuts_iff_forall₂ hrun]
  split at h
  · rename_i hlength
    rw [← matchesEach_eq_true_iff hlength, h, Except.ok.injEq]
  · rename_i hlength
    cases h
    exact ⟨fun hfalse => absurd hfalse Bool.false_ne_true,
      fun hall => absurd hall.length_eq hlength⟩

/-- **What the items of a list template decide.**  If matching the items against the values has an
answer, the answer is whether the values can be cut into consecutive runs, one for each item, such
that a bare `*` takes any run and every other item one value that it matches.  If no item is a bare
`*` and there are as many items as values, matching them one by one comes to the same as the table,
be it an answer or an error.  This is what a list template does with a list of whatever kind: its
items, which stand one level deeper, decide. -/
theorem matchesElements_iff_cuts (ctx : MatchContext) (depth : Nat) (items : List Template)
    (values : List Value) :
    (∀ b, matchesElements ctx depth items values = .ok b →
      (b = true ↔ Cuts ctx depth items values)) ∧
      (items.any isRun = false → items.length = values.length →
        matchesEach ctx depth items values = matchesTable ctx depth items values) ∧
      ∀ kind listKind : Kind,
        selectorMatch ctx depth (.elements kind items) (.list listKind values) =
          matchesElements ctx (depth + 1) items values :=
  ⟨fun _ => matchesElements_cuts,
    fun hrun hlength => (matchesRuns_eq_matchesEach hrun [] hlength).symm,
    selectorMatch_elements⟩

/-- A two, with any number of elements before and after it. -/
def aroundTwo : List Template :=
  [.ofSelector .anyOrOmit, specific (.integer 2), .ofSelector .anyOrOmit]

/-- Among three elements the two is found, and what stands around it is taken, also when a list
template asks; a template that is not initialized fails item by item, and so it does in the
table. -/
theorem matchesElements_iff_cuts_aroundTwo :
    matchesElements {} 1 aroundTwo [.integer 1, .integer 2, .integer 2] = .ok true ∧
      Cuts {} 1 aroundTwo [.integer 1, .integer 2, .integer 2] ∧
      matchesElements {} 1 aroundTwo [.integer 1, .integer 3] = .ok false ∧
      ¬ Cuts {} 1 aroundTwo [.integer 1, .integer 3] ∧
      matchesTable {} 1 [.ofSelector .any, .ofSelector .uninitialized]
        [.integer 1, .integer 2] = .error .uninitializedTemplate ∧
      selectorMatch {} 0 (.elements .recordOf aroundTwo)
        (.list .recordOf [.integer 1, .integer 2, .integer 2]) = .ok true := by
  have hfound : matchesElements {} 1 aroundTwo [.integer 1, .integer 2, .integer 2] = .ok true :=
    rfl
  have hmissing : matchesElements {} 1 aroundTwo [.integer 1, .integer 3] = .ok false := rfl
  refine ⟨hfound, ((matchesElements_iff_cuts {} 1 _ _).1 true hfound).mp rfl, hmissing, ?_, ?_,
    ((matchesElements_iff_cuts {} 0 _ _).2.2 .recordOf .recordOf).trans hfound⟩
  · intro hcuts
    have htrue := ((matchesElements_iff_cuts {} 1 _ _).1 false hmissing).mpr hcuts
    cases htrue
  · rw [← (matchesElements_iff_cuts {} 1 [.ofSelector .any, .ofSelector .uninitialized]
      [.integer 1, .integer 2]).2.1 rfl rfl]
    rfl

end Template

end TestSpec
