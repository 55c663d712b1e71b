import Rulebook.Proofs.Description.Regular

/-!
# What the steps of the reading establish

Each function of the reading that succeeds has checked something. These are the results that the
form of a ruleset depends on: arguments fit, listed values are scalars, listed keys are new, and
bounds leave room.
-/

namespace Rulebook

open Json (Value Members)

/-- Two steps in a row succeed if the second one does with the result of the first. -/
theorem bind_ok_iff {ε α β : Type} {step : Except ε α} {next : α → Except ε β} {b : β} :
    step >>= next = .ok b ↔ ∃ a, step = .ok a ∧ next a = .ok b := by
  cases step <;> simp [bind, Except.bind]

/-- Putting a fault at a place makes no step succeed. -/
theorem located_ok_iff {α : Type} {place : Location} {step : Except DefinitionFault α} {a : α} :
    located place step = .ok a ↔ step = .ok a := by
  cases step <;> simp [located]

/-! ## Rules -/

/-- A name is taken once. -/
theorem Draft.take_ok_iff {draft next : Draft} {name : String} {formerNames : List String} :
    draft.take name formerNames = .ok next ↔
      name ∉ draft.names ∧ { draft with names := name :: draft.names } = next := by
  unfold Draft.take
  by_cases h : name ∈ draft.names <;> simp [h]

/-- What every entry keeps is kept by all of them, one after the other. -/
theorem Draft.addAll_induction {p : Provider} {read : RulesetReader} {place : Location}
    {I : Draft → Prop} {entries : List Entry} {draft next : Draft}
    (hadd : ∀ entry ∈ entries, ∀ {draft next : Draft}, I draft →
      draft.add p read place entry = .ok next → I next)
    (hdraft : I draft) (h : draft.addAll p read place entries = .ok next) : I next := by
  induction entries generalizing draft with
  | nil =>
    obtain rfl := Except.ok.inj h
    exact hdraft
  | cons entry rest ih =>
    obtain ⟨hentry, hrest⟩ := List.forall_mem_cons.mp hadd
    simp only [addAll, bind_ok_iff] at h
    obtain ⟨middle, hfirst, h⟩ := h
    exact ih hrest (hentry hdraft hfirst) h

/-- A rule that a name resolves to is described under its own name. -/
theorem Provider.resolve_spec {p : Provider} {name : String} {found : Resolved} (hp : p.Coherent)
    (h : p.resolve name = .ok found) :
    p.descriptor found.descriptor.name = some found.descriptor := by
  have hwithin : ∀ lookups name former, p.resolveWithin lookups name former = .ok found →
      p.descriptor found.descriptor.name = some found.descriptor := by
    intro lookups
    induction lookups with
    | zero =>
      intro name former h
      cases h
    | succ lookups ih =>
      intro name former h
      unfold Provider.resolveWithin at h
      split at h
      · next d hd =>
        obtain rfl := Except.ok.inj h
        rwa [hp.name_eq hd]
      · split at h
        · exact ih _ _ h
        · cases h
  exact hwithin _ _ _ h

namespace Resolved

variable {r : Resolved} {arguments : Arguments}

/-- A rule takes a number of arguments within its bounds. -/
theorem takes_iff {given : Nat} :
    r.takes given = true ↔ r.descriptor.required ≤ given ∧ given ≤ r.descriptor.allowed := by
  simp [takes]

/-- The arguments that an entry gives: none, those of a list, or the value itself. -/
theorem arguments_cases {v : Value} (h : r.arguments v = .ok arguments) :
    (arguments = .flag ∧ (r.takes 0 = true ∨ r.descriptor.allowed = 0)) ∨
    (∃ values, v = .array values ∧ arguments = .list values ∧ r.takes values.length = true ∧
      ¬(values = [] ∧ r.descriptor.allowed = 0)) ∨
    (arguments = .list [v] ∧ r.descriptor.allowed = 1) := by
  unfold Resolved.arguments at h
  split at h
  · split at h
    · next htakes => exact Or.inl ⟨(Except.ok.inj h).symm, Or.inl htakes⟩
    · cases h
  · next values =>
    split at h
    · next hnone =>
      have hallowed : r.descriptor.allowed = 0 := by simp at hnone; exact hnone.2
      exact Or.inl ⟨(Except.ok.inj h).symm, Or.inr hallowed⟩
    · next hsome =>
      split at h
      · next htakes =>
        exact Or.inr (Or.inl ⟨values, rfl, (Except.ok.inj h).symm, htakes, by simpa using hsome⟩)
      · cases h
  · split at h
    · next hallowed => exact Or.inr (Or.inr ⟨(Except.ok.inj h).symm, hallowed⟩)
    · split at h
      · split at h <;> cases h
      · cases h

/-- The arguments that an entry gives fit the rule. -/
theorem arguments_fits {v : Value} (harity : r.descriptor.required ≤ r.descriptor.allowed)
    (h : r.arguments v = .ok arguments) : arguments.Fits r.descriptor := by
  rcases arguments_cases h with ⟨rfl, hnone⟩ | ⟨values, rfl, rfl, htakes, hsome⟩ | ⟨rfl, hone⟩
  · rw [takes_iff] at hnone
    simp only [Arguments.Fits]
    omega
  · obtain ⟨hleast, hmost⟩ := takes_iff.mp htakes
    exact ⟨hleast, hmost, hsome⟩
  · have hlength : [v].length = 1 := rfl
    exact ⟨by omega, by omega, by simp⟩

/-- The arguments that an entry gives are what it says, or parts of it. -/
theorem arguments_keysDistinct {v : Value} (hv : v.KeysDistinct)
    (h : r.arguments v = .ok arguments) : ∀ a ∈ arguments.values, a.KeysDistinct := by
  rcases arguments_cases h with ⟨rfl, _⟩ | ⟨values, rfl, rfl, _⟩ | ⟨rfl, _⟩
  · simp [Arguments.values]
  · exact Value.keysDistinct_array.mp hv
  · simpa [Arguments.values] using hv

/-- Arguments that have passed the look of the provider are unchanged, and it can use them. -/
theorem prepared_ok_iff {p : Provider} {after : Arguments} :
    r.prepared p arguments = .ok after ↔
      p.prepare r.descriptor.name arguments.values = .ok () ∧ arguments = after := by
  unfold prepared
  split <;> simp [*]

end Resolved

/-! ## Lists of values -/

/-- The values of an enumeration are at least one, and none has a fault. -/
theorem enumValues_spec {allowsNull : Bool} {v : Value} {values : List Value}
    (h : enumValues allowsNull v = .ok values) :
    values ≠ [] ∧ ∀ w ∈ values, enumValueFault? allowsNull w = none := by
  unfold enumValues at h
  split at h
  · next items =>
    simp only at h
    split at h
    · cases h
    · next hempty =>
      split at h
      · cases h
      · next hfault =>
        obtain rfl := Except.ok.inj h
        exact ⟨by simpa using hempty, List.findSome?_eq_none_iff.mp hfault⟩
  · cases h

/-- The values under a core name are those of an enumeration. -/
theorem Draft.valuesOf_ok_iff {key : CoreKey} {allowsNull : Bool} {v : Value}
    {values : List Value} :
    Draft.valuesOf key allowsNull v = .ok values ↔ enumValues allowsNull v = .ok values := by
  unfold Draft.valuesOf
  split <;> simp [*]

/-- Where null is allowed, a value without a fault that is not null has no fault at all. -/
theorem enumValueFault?_of_not_null {v : Value} (h : enumValueFault? true v = none)
    (hnull : v.isNull = false) : enumValueFault? false v = none := by
  cases v <;> simp_all [enumValueFault?, Value.isNull]

/-- A value without a fault is a scalar, and has distinct keys. -/
theorem keysDistinct_of_enumValueFault? {v : Value} (h : enumValueFault? false v = none) :
    v.KeysDistinct := by
  cases v <;> simp_all [enumValueFault?, Value.KeysDistinct]

end Rulebook
