import TestSpec.Json.Schema

/-!
# Numbers in JSON are numbers

The binary format has values that are not numbers, and JSON has no notation for them.
So the values that stand in a text are **numeric**: every number in them is one
(`Json.isNumeric_of_ofText?`).  This holds of the tree that is read from a text, and
is kept from a tree to its value and back.

A structure that is read part by part keeps what each of its fields keeps
(`Json.Structure.schema_invariant`).
-/

namespace TestSpec

/-! ### Steps that may fail -/

/-- A sequence of steps succeeds if the first does and the rest does with what it gives. -/
theorem bind_eq_ok {ε α β : Type} {x : Except ε α} {f : α → Except ε β} {b : β} :
    (x >>= f) = .ok b ↔ ∃ a, x = .ok a ∧ f a = .ok b := by
  cases x <;> simp [bind, Except.bind]

/-- A step whose result is changed succeeds if the step does. -/
theorem map_eq_ok {ε α β : Type} {x : Except ε α} {f : α → β} {b : β} :
    f <$> x = .ok b ↔ ∃ a, x = .ok a ∧ f a = b := by
  cases x <;> simp [Functor.map, Except.map]

theorem pure_eq_ok {ε α : Type} {a b : α} : (pure a : Except ε α) = .ok b ↔ a = b := by
  simp [pure, Except.pure]

theorem mapError_eq_ok {ε δ α : Type} {x : Except ε α} {f : ε → δ} {a : α} :
    x.mapError f = .ok a ↔ x = .ok a := by
  cases x with
  | error e => exact ⟨nofun, nofun⟩
  | ok b =>
    have h : (Except.ok b : Except ε α).mapError f = .ok b := rfl
    rw [h]
    simp

/-! ### Arithmetic -/

namespace Binary64

/-- The nearest binary number to a ratio is a number. -/
theorem ofRatio_ne_nan (negative : Bool) (num den : Nat) : ofRatio negative num den ≠ .nan := by
  simp only [ofRatio]
  split <;> split <;> simp

/-- The nearest binary number to a whole number is a number. -/
theorem ofInt_ne_nan (i : Int) : ofInt i ≠ .nan := ofRatio_ne_nan _ _ _

theorem neg_ne_nan {x : Binary64} (h : x ≠ .nan) : x.neg ≠ .nan := by
  cases x <;> simp_all [neg]

theorem isNaN_eq_false {x : Binary64} (h : x ≠ .nan) : x.isNaN = false := by
  cases x <;> simp_all [isNaN]

end Binary64

namespace Json

mutual

/-- All numbers of a JSON value are numbers. -/
def isNumeric : Json → Bool
  | .real x => !x.isNaN
  | .array items => itemsNumeric items
  | .object members => membersNumeric members
  | .null | .boolean _ | .integer _ | .string _ => true

/-- All numbers of the items of an array are numbers. -/
def itemsNumeric : List Json → Bool
  | [] => true
  | j :: rest => isNumeric j && itemsNumeric rest

/-- All numbers of the members of an object are numbers. -/
def membersNumeric : List (String × Json) → Bool
  | [] => true
  | (_, j) :: rest => isNumeric j && membersNumeric rest

end

/-- A number that a JSON value is read as is not beyond all numbers. -/
theorem binary64?_ne_nan {j : Json} {x : Binary64} (hj : j.isNumeric = true)
    (h : j.binary64? = some x) : x ≠ .nan := by
  cases j with
  | integer i =>
    obtain rfl := Option.some.inj h
    exact Binary64.ofInt_ne_nan i
  | real y =>
    obtain rfl := Option.some.inj h
    rintro rfl
    simp [isNumeric, Binary64.isNaN] at hj
  | _ => simp [binary64?] at h

/-- A numeric value put into numeric members leaves them numeric. -/
theorem putMember_isNumeric {name : String} {value : Json} {members : List (String × Json)}
    (hvalue : value.isNumeric = true) (h : membersNumeric members = true) :
    membersNumeric (putMember name value members) = true := by
  induction members with
  | nil => simp [putMember, membersNumeric, hvalue]
  | cons m rest ih =>
    simp only [membersNumeric, Bool.and_eq_true] at h
    rw [putMember]
    split
    · simp [membersNumeric, hvalue, h.2]
    · simp [membersNumeric, h.1, ih h.2]

theorem collectMembers_isNumeric {members : List (String × Json)}
    (h : membersNumeric members = true) : membersNumeric (collectMembers members) = true := by
  have hfold (acc : List (String × Json)) (hacc : membersNumeric acc = true) :
      membersNumeric (members.foldl (fun acc m => putMember m.1 m.2 acc) acc) = true := by
    induction members generalizing acc with
    | nil => exact hacc
    | cons m rest ih =>
      simp only [membersNumeric, Bool.and_eq_true] at h
      exact ih h.2 _ (putMember_isNumeric h.1 hacc)
  exact hfold [] rfl

/-! ### Trees of values -/

namespace Source

mutual

/-- All numbers of a tree are numbers. -/
def isNumeric : Source → Bool
  | .real x => !x.isNaN
  | .array items _ => itemsNumeric items
  | .object members _ => membersNumeric members
  | .null | .boolean _ | .integer _ | .string _ | .refused _ => true

/-- All numbers of the items of an array are numbers. -/
def itemsNumeric : List Source → Bool
  | [] => true
  | s :: rest => isNumeric s && itemsNumeric rest

/-- All numbers of the members of an object are numbers. -/
def membersNumeric : List (Option String × Source) → Bool
  | [] => true
  | (_, s) :: rest => isNumeric s && membersNumeric rest

end

mutual

/-- The tree of a numeric value is numeric. -/
theorem ofJson_isNumeric : (j : Json) → j.isNumeric = true → (ofJson j).isNumeric = true
  | .null, _ | .boolean _, _ | .integer _, _ | .string _, _ => rfl
  | .real _, h => h
  | .array items, h => ofItems_isNumeric items h
  | .object members, h => ofMembers_isNumeric members h

/-- The trees of numeric items are numeric. -/
theorem ofItems_isNumeric :
    (items : List Json) → Json.itemsNumeric items = true → itemsNumeric (ofItems items) = true
  | [], _ => rfl
  | j :: rest, h => by
    simp only [Json.itemsNumeric, Bool.and_eq_true] at h
    simp [ofItems, itemsNumeric, ofJson_isNumeric j h.1, ofItems_isNumeric rest h.2]

/-- The trees of numeric members are numeric. -/
theorem ofMembers_isNumeric : (members : List (String × Json)) →
    Json.membersNumeric members = true → membersNumeric (ofMembers members) = true
  | [], _ => rfl
  | (name, j) :: rest, h => by
    simp only [Json.membersNumeric, Bool.and_eq_true] at h
    simp [ofMembers, membersNumeric, ofJson_isNumeric j h.1, ofMembers_isNumeric rest h.2]

end

mutual

/-- The value of a numeric tree is numeric. -/
theorem json?_isNumeric : (s : Source) → s.isNumeric = true → ∀ j, s.json? = some j →
    j.isNumeric = true
  | .null, _, j, h | .boolean _, _, j, h | .integer _, _, j, h | .string _, _, j, h => by
    obtain rfl := Option.some.inj h
    rfl
  | .real x, hs, j, h => by
    obtain rfl := Option.some.inj h
    exact hs
  | .refused _, _, _, h => by cases h
  | .array items isClosed, hs, j, h => by
    obtain ⟨values, hvalues, h⟩ := Option.bind_eq_some_iff.mp h
    obtain ⟨_, -, h⟩ := Option.bind_eq_some_iff.mp h
    obtain rfl := Option.some.inj h
    exact itemValues?_isNumeric items hs values hvalues
  | .object members isClosed, hs, j, h => by
    obtain ⟨values, hvalues, h⟩ := Option.bind_eq_some_iff.mp h
    obtain ⟨_, -, h⟩ := Option.bind_eq_some_iff.mp h
    obtain rfl := Option.some.inj h
    exact collectMembers_isNumeric (memberValues?_isNumeric members hs values hvalues)

/-- The values of numeric items are numeric. -/
theorem itemValues?_isNumeric : (items : List Source) → itemsNumeric items = true →
    ∀ values, itemValues? items = some values → Json.itemsNumeric values = true
  | [], _, values, h => by
    obtain rfl := Option.some.inj h
    rfl
  | s :: rest, hs, values, h => by
    simp only [itemsNumeric, Bool.and_eq_true] at hs
    obtain ⟨first, hfirst, h⟩ := Option.bind_eq_some_iff.mp h
    obtain ⟨others, hothers, h⟩ := Option.bind_eq_some_iff.mp h
    obtain rfl := Option.some.inj h
    simp [Json.itemsNumeric, json?_isNumeric s hs.1 first hfirst,
      itemValues?_isNumeric rest hs.2 others hothers]

/-- The values of numeric members are numeric. -/
theorem memberValues?_isNumeric : (members : List (Option String × Source)) →
    membersNumeric members = true →
    ∀ values, memberValues? members = some values → Json.membersNumeric values = true
  | [], _, values, h => by
    obtain rfl := Option.some.inj h
    rfl
  | (name, s) :: rest, hs, values, h => by
    simp only [membersNumeric, Bool.and_eq_true] at hs
    obtain ⟨_, -, h⟩ := Option.bind_eq_some_iff.mp h
    obtain ⟨first, hfirst, h⟩ := Option.bind_eq_some_iff.mp h
    obtain ⟨others, hothers, h⟩ := Option.bind_eq_some_iff.mp h
    obtain rfl := Option.some.inj h
    simp [Json.membersNumeric, json?_isNumeric s hs.1 first hfirst,
      memberValues?_isNumeric rest hs.2 others hothers]

end

end Source

/-! ### Texts -/

namespace Numeral

theorem scaled?_ne_nan {significand : Nat} {exponent : Int} {x : Binary64}
    (h : scaled? significand exponent = some x) : x ≠ .nan := by
  cases exponent with
  | ofNat k =>
    simp only [scaled?] at h
    split at h
    · obtain rfl := Option.some.inj h
      exact Binary64.ofRatio_ne_nan _ _ _
    · cases h
  | negSucc k =>
    simp only [scaled?] at h
    split at h
    · obtain rfl := Option.some.inj h
      exact Binary64.ofRatio_ne_nan _ _ _
    split at h
    · obtain rfl := Option.some.inj h
      exact Binary64.ofRatio_ne_nan _ _ _
    · obtain rfl := Option.some.inj h
      simp [Binary64.zero]

/-- The value of a number that is written in a text is a number. -/
theorem value?_isNumeric {n : Numeral} {j : Json} (h : n.value? = some j) :
    j.isNumeric = true := by
  simp only [value?] at h
  split at h
  · obtain rfl := Option.some.inj h
    unfold wholeValue
    split
    · rfl
    split
    · rfl
    · simp [isNumeric, Binary64.isNaN_eq_false (Binary64.neg_ne_nan
        (Binary64.ofInt_ne_nan _))]
  · obtain ⟨x, hx, rfl⟩ := Option.map_eq_some_iff.mp h
    have hnumber := scaled?_ne_nan hx
    split
    · simp [isNumeric, Binary64.isNaN_eq_false (Binary64.neg_ne_nan hnumber)]
    · simp [isNumeric, Binary64.isNaN_eq_false hnumber]

end Numeral

namespace Source

theorem readNumber_isNumeric (cs : List Char) : (readNumber cs).1.isNumeric = true := by
  unfold readNumber
  split
  · rfl
  split
  · rfl
  · rename_i j hj
    exact ofJson_isNumeric j (Numeral.value?_isNumeric hj)

theorem contained_isNumeric {room : Nat} {container : Source} {after : Option (List Char)}
    (h : container.isNumeric = true) : (contained room container after).1.isNumeric = true := by
  unfold contained
  split
  · rfl
  · exact h

/-- All numbers of a tree that is read from a text are numbers. -/
theorem read_isNumeric (fuel : Nat) : ∀ room cs,
    (readValue fuel room cs).1.isNumeric = true ∧
      itemsNumeric (readItems fuel room cs).1 = true ∧
      membersNumeric (readMembers fuel room cs).1 = true := by
  induction fuel with
  | zero => exact fun _ _ => ⟨rfl, rfl, rfl⟩
  | succ fuel ih =>
    intro room cs
    refine ⟨?_, ?_, ?_⟩
    · rw [readValue]
      split
      · rfl
      · rfl
      · rfl
      · split <;> rfl
      · split
        · exact contained_isNumeric rfl
        · exact contained_isNumeric (ih _ _).2.1
      · split
        · exact contained_isNumeric rfl
        · exact contained_isNumeric (ih _ _).2.2
      · exact readNumber_isNumeric _
    · have hitem := (ih room cs).1
      rw [readItems]
      generalize readValue fuel room cs = item at hitem ⊢
      dsimp only
      split
      · simp [itemsNumeric, hitem]
      · simp [itemsNumeric, hitem, (ih _ _).2.1]
      · simp [itemsNumeric, hitem]
    · rw [readMembers]
      split
      · split
        · rfl
        split
        · have hvalue (rest : List Char) := (ih room rest).1
          dsimp only
          split
          · simp [membersNumeric, hvalue]
          · simp [membersNumeric, hvalue, (ih _ _).2.2]
          · simp [membersNumeric, hvalue]
        · rfl
      · rfl

end Source

/-- **Numbers in JSON are numbers.**  The value that a text is has no others. -/
theorem isNumeric_of_ofText? {text : String} {j : Json} (h : ofText? text = some j) :
    j.isNumeric = true := by
  unfold ofText? at h
  dsimp only at h
  split at h
  · have hsource : (Source.ofText text).1.isNumeric = true := by
      unfold Source.ofText
      exact (Source.read_isNumeric _ _ _).1
    exact Source.json?_isNumeric _ hsource j h
  · cases h

/-! ### Structures -/

namespace Structure

variable {σ : Type} {r : Structure σ} {P : σ → Prop} {place : Place}

/-- Putting in the members of an object keeps what each field keeps. -/
theorem readMembers_invariant
    (hput : ∀ m ∈ r.members, ∀ s x x', s.isNumeric = true → P x → m.put place s x = .ok x' → P x')
    {given given' : List String} {x x' : σ} {members : List (Option String × Source)}
    (hmembers : Source.membersNumeric members = true) (hx : P x)
    (h : r.readMembers place given x members = .ok (x', given')) : P x' := by
  induction members generalizing given x with
  | nil =>
    cases h
    exact hx
  | cons member rest ih =>
    obtain ⟨name, s⟩ := member
    simp only [Source.membersNumeric, Bool.and_eq_true] at hmembers
    cases name with
    | none => cases h
    | some name =>
      rw [readMembers] at h
      split at h
      · split at h
        · exact ih hmembers.2 hx h
        · cases h
      · rename_i m hm
        split at h
        · cases h
        · obtain ⟨y, hy, h⟩ := bind_eq_ok.mp h
          exact ih hmembers.2 (hput m (List.mem_of_find?_eq_some hm) s x y hmembers.1 hx hy) h

/-- Putting in the items of an array keeps what each field keeps. -/
theorem readItems_invariant {fields : List (Member σ)}
    (hput : ∀ m ∈ fields, ∀ s x x', s.isNumeric = true → P x → m.put place s x = .ok x' → P x')
    {position : Nat} {isClosed : Bool} {x x' : σ} {items : List Source}
    (hitems : Source.itemsNumeric items = true) (hx : P x)
    (h : r.readItems place position isClosed x fields items = .ok x') : P x' := by
  induction fields generalizing position x items with
  | nil =>
    cases items with
    | nil =>
      rw [readItems] at h
      split at h
      · cases h
        exact hx
      · cases h
    | cons s rest => cases h
  | cons m fields ih =>
    rw [List.forall_mem_cons] at hput
    cases items with
    | nil =>
      rw [readItems] at h
      split at h
      · cases h
      split at h
      · cases h
      · exact ih hput.2 rfl hx h
    | cons s rest =>
      simp only [Source.itemsNumeric, Bool.and_eq_true] at hitems
      obtain ⟨y, hy, h⟩ := bind_eq_ok.mp h
      exact ih hput.2 hitems.2 (hput.1 s x y hitems.1 hx hy) h

/-- A structure that is read from a numeric tree has what each of its fields keeps. -/
theorem schema_invariant
    (hput : ∀ m ∈ r.members, ∀ s x x', s.isNumeric = true → P x → m.put place s x = .ok x' → P x')
    {blank x : σ} {s : Source} (hs : s.isNumeric = true) (hblank : P blank)
    (h : r.schema blank place s = .ok x) : P x := by
  cases s with
  | object members isClosed =>
    obtain ⟨⟨y, given⟩, hy, h⟩ := bind_eq_ok.mp h
    obtain ⟨⟨⟩, -, h⟩ := bind_eq_ok.mp h
    split at h
    · cases h
    · obtain rfl := pure_eq_ok.mp h
      exact readMembers_invariant hput hs hblank hy
  | array items isClosed => exact readItems_invariant hput hs hblank h
  | _ => cases h

end Structure

end Json

end TestSpec
