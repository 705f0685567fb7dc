import Mathlib.Data.List.Nodup
import TestSpec.Json.Source
import TestSpec.Proofs.Json.Numeric

/-!
# The order of members in JSON

A JSON value keeps the members of an object in the order in which they were written.
`Json.Reorders` says of two values that they are the same but for that order.  It asks
of each object that the names of its members are distinct; what is read from a text
has that property, since a name that is repeated keeps its first place and takes its
last value (`Json.reorders_self_of_ofText?`).
-/

namespace TestSpec.Json

/-- The same JSON but for the order in which the members of objects stand.  The members of each
object have distinct names. -/
inductive Reorders : Json → Json → Prop
  | null : Reorders .null .null
  | boolean {b : Bool} : Reorders (.boolean b) (.boolean b)
  | integer {i : Int} : Reorders (.integer i) (.integer i)
  | real {x : Binary64} : Reorders (.real x) (.real x)
  | string {s : String} : Reorders (.string s) (.string s)
  | array {items items' : List Json} (hlength : items.length = items'.length)
      (hitems : ∀ p ∈ items.zip items', Reorders p.1 p.2) : Reorders (.array items) (.array items')
  | object {members members' : List (String × Json)} (hdistinct : (members.map Prod.fst).Nodup)
      (hnames : (members.map Prod.fst).Perm (members'.map Prod.fst))
      (hvalues : ∀ name j j', (name, j) ∈ members → (name, j') ∈ members' → Reorders j j') :
      Reorders (.object members) (.object members')

/-! ### Members with distinct names -/

/-- Among members with distinct names, the name tells the value. -/
theorem member_eq_of_name_eq {members : List (String × Json)} (h : (members.map Prod.fst).Nodup)
    {name : String} {j j' : Json} (hj : (name, j) ∈ members) (hj' : (name, j') ∈ members) :
    j = j' :=
  (Prod.mk.inj (List.inj_on_of_nodup_map h hj hj' rfl)).2

theorem reorders_self_of_members {members : List (String × Json)}
    (hdistinct : (members.map Prod.fst).Nodup) (h : ∀ m ∈ members, m.2.Reorders m.2) :
    (object members).Reorders (.object members) := by
  refine .object hdistinct (.refl _) fun name j j' hj hj' => ?_
  rw [← member_eq_of_name_eq hdistinct hj hj']
  exact h _ hj

/-- Two members of distinct names may change places. -/
theorem Reorders.swap {name other : String} (hne : name ≠ other) {j j' k k' : Json}
    (hj : j.Reorders j') (hk : k.Reorders k') :
    (Json.object [(name, j), (other, k)]).Reorders (.object [(other, k'), (name, j')]) := by
  refine .object (by simp [hne]) (.swap ..) fun found x x' hx hx' => ?_
  simp only [List.mem_cons, Prod.mk.injEq, List.not_mem_nil, or_false] at hx hx'
  rcases hx with ⟨rfl, rfl⟩ | ⟨rfl, rfl⟩ <;> rcases hx' with ⟨h, rfl⟩ | ⟨h, rfl⟩
  · exact absurd h hne
  · exact hj
  · exact hk
  · exact absurd h.symm hne

/-- What is the same but for the order of members has parts of that sort. -/
theorem Reorders.self_of_mem {members : List (String × Json)}
    (h : (Json.object members).Reorders (.object members)) : ∀ m ∈ members, m.2.Reorders m.2 := by
  cases h with
  | object _ _ hvalues => exact fun m hm => hvalues m.1 m.2 m.2 hm hm

theorem Reorders.self_of_mem_items {items : List Json}
    (h : (Json.array items).Reorders (.array items)) : ∀ j ∈ items, j.Reorders j := by
  cases h with
  | array _ hitems =>
    intro j hj
    obtain ⟨i, hi, rfl⟩ := List.getElem_of_mem hj
    exact hitems _ (List.mem_iff_getElem.mpr ⟨i, by simpa using hi, List.getElem_zip⟩)

/-! ### Members that are read -/

theorem mem_putMember {name : String} {value : Json} {members : List (String × Json)}
    {m : String × Json} (h : m ∈ putMember name value members) :
    m = (name, value) ∨ m ∈ members := by
  induction members with
  | nil => simpa [putMember] using h
  | cons first rest ih =>
    rw [putMember] at h
    split at h
    · rw [List.mem_cons] at h ⊢
      exact h.imp_right .inr
    · rw [List.mem_cons] at h ⊢
      rcases h with h | h
      · exact .inr (.inl h)
      · exact (ih h).imp_right .inr

theorem nodup_putMember {name : String} {value : Json} {members : List (String × Json)}
    (h : (members.map Prod.fst).Nodup) :
    ((putMember name value members).map Prod.fst).Nodup := by
  induction members with
  | nil => simp [putMember]
  | cons first rest ih =>
    rw [List.map_cons, List.nodup_cons] at h
    rw [putMember]
    split
    · rename_i hname
      rw [List.map_cons, List.nodup_cons, ← eq_of_beq hname]
      exact h
    · rename_i hname
      rw [List.map_cons, List.nodup_cons]
      refine ⟨?_, ih h.2⟩
      rw [List.mem_map]
      rintro ⟨m, hm, hfirst⟩
      rcases mem_putMember hm with rfl | hm
      · exact hname (beq_iff_eq.mpr hfirst.symm)
      · exact h.1 (hfirst ▸ List.mem_map_of_mem hm)

/-- Members that are collected have distinct names, and each was given. -/
theorem collectMembers_spec (members : List (String × Json)) :
    ((collectMembers members).map Prod.fst).Nodup ∧ ∀ m ∈ collectMembers members, m ∈ members := by
  have hfold (collected : List (String × Json)) (h : (collected.map Prod.fst).Nodup) :
      let all := members.foldl (fun acc m => putMember m.1 m.2 acc) collected
      (all.map Prod.fst).Nodup ∧ ∀ m ∈ all, m ∈ collected ∨ m ∈ members := by
    induction members generalizing collected with
    | nil => exact ⟨h, fun m hm => .inl hm⟩
    | cons first rest ih =>
      obtain ⟨hdistinct, hmem⟩ := ih _ (nodup_putMember h)
      refine ⟨hdistinct, fun m hm => ?_⟩
      rcases hmem m hm with hm | hm
      · rcases mem_putMember hm with rfl | hm
        · exact .inr List.mem_cons_self
        · exact .inl hm
      · exact .inr (List.mem_cons_of_mem _ hm)
  obtain ⟨hdistinct, hmem⟩ := hfold [] List.nodup_nil
  exact ⟨hdistinct, fun m hm => (hmem m hm).resolve_left List.not_mem_nil⟩

namespace Source

mutual

/-- The value of a tree has objects with distinct names. -/
theorem json?_reorders_self : (s : Source) → ∀ {j : Json}, s.json? = some j → j.Reorders j
  | .null, _, h => by
    obtain rfl := Option.some.inj h
    exact .null
  | .boolean _, _, h => by
    obtain rfl := Option.some.inj h
    exact .boolean
  | .integer _, _, h => by
    obtain rfl := Option.some.inj h
    exact .integer
  | .real _, _, h => by
    obtain rfl := Option.some.inj h
    exact .real
  | .string _, _, h => by
    obtain rfl := Option.some.inj h
    exact .string
  | .refused _, _, h => by cases h
  | .array items _, _, h => by
    obtain ⟨values, hvalues, h⟩ := Option.bind_eq_some_iff.mp h
    obtain ⟨_, -, h⟩ := Option.bind_eq_some_iff.mp h
    obtain rfl := Option.some.inj h
    refine .array rfl fun p hp => ?_
    obtain ⟨i, hi, rfl⟩ := List.getElem_of_mem hp
    simpa using itemValues?_reorders_self items hvalues _ (List.getElem_mem (by simpa using hi))
  | .object members _, _, h => by
    obtain ⟨values, hvalues, h⟩ := Option.bind_eq_some_iff.mp h
    obtain ⟨_, -, h⟩ := Option.bind_eq_some_iff.mp h
    obtain rfl := Option.some.inj h
    obtain ⟨hdistinct, hmem⟩ := collectMembers_spec values
    exact reorders_self_of_members hdistinct fun m hm =>
      memberValues?_reorders_self members hvalues m (hmem m hm)

theorem itemValues?_reorders_self : (items : List Source) → ∀ {values : List Json},
    itemValues? items = some values → ∀ j ∈ values, j.Reorders j
  | [], _, h => by
    obtain rfl := Option.some.inj h
    simp
  | s :: rest, _, h => by
    obtain ⟨first, hfirst, h⟩ := Option.bind_eq_some_iff.mp h
    obtain ⟨others, hothers, h⟩ := Option.bind_eq_some_iff.mp h
    obtain rfl := Option.some.inj h
    rw [List.forall_mem_cons]
    exact ⟨json?_reorders_self s hfirst, itemValues?_reorders_self rest hothers⟩

theorem memberValues?_reorders_self : (members : List (Option String × Source)) →
    ∀ {values : List (String × Json)}, memberValues? members = some values →
    ∀ m ∈ values, m.2.Reorders m.2
  | [], _, h => by
    obtain rfl := Option.some.inj h
    simp
  | (name, s) :: rest, _, h => by
    obtain ⟨_, -, h⟩ := Option.bind_eq_some_iff.mp h
    obtain ⟨first, hfirst, h⟩ := Option.bind_eq_some_iff.mp h
    obtain ⟨others, hothers, h⟩ := Option.bind_eq_some_iff.mp h
    obtain rfl := Option.some.inj h
    rw [List.forall_mem_cons]
    exact ⟨json?_reorders_self s hfirst, memberValues?_reorders_self rest hothers⟩

end

end Source

/-- **Names in a text.**  The value of a text has objects with distinct names. -/
theorem reorders_self_of_ofText? {text : String} {j : Json} (h : ofText? text = some j) :
    j.Reorders j := by
  unfold ofText? at h
  dsimp only at h
  split at h
  · exact Source.json?_reorders_self _ h
  · cases h

end TestSpec.Json
