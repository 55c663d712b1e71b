import Rulebook.Proofs.Description.Language
import Rulebook.Proofs.Description.Steps

/-!
# Steps of the reading that succeed

Each step of the reading succeeds on the values of one form of the language and on no others: the
entries of a description are listed, the name of a rule is resolved, its arguments are taken, and
the values of an enumeration are collected.
-/

namespace Rulebook

open Json (Value Members)

/-! ## Success -/

/-- A step succeeds. -/
def Succeeds {ε α : Type} (step : Except ε α) : Prop := ∃ a, step = .ok a

section Success

variable {ε α β : Type}

/-- A result is a success. -/
@[simp]
theorem succeeds_ok (a : α) : Succeeds (.ok a : Except ε α) := ⟨a, rfl⟩

/-- An error is not a success. -/
@[simp]
theorem not_succeeds_error (e : ε) : ¬Succeeds (.error e : Except ε α) := fun ⟨_, h⟩ => by cases h

/-- Two steps in a row succeed if the second one does with the result of the first. -/
theorem succeeds_bind_iff {step : Except ε α} {next : α → Except ε β} :
    Succeeds (step >>= next) ↔ ∃ a, step = .ok a ∧ Succeeds (next a) := by
  cases step <;> simp [bind, Except.bind]

/-- A step whose result is only wrapped succeeds as before. -/
theorem succeeds_bind_ok_iff {step : Except ε α} {f : α → β} :
    Succeeds (step >>= fun a => .ok (f a)) ↔ Succeeds step := by
  simp only [succeeds_bind_iff, succeeds_ok, and_true]
  rfl

/-- Putting a fault at a place makes no step succeed. -/
theorem succeeds_located_iff {place : Location} {step : Except DefinitionFault α} :
    Succeeds (located place step) ↔ Succeeds step := by
  simp [Succeeds, located_ok_iff]

end Success

/-! ## Entries -/

/-- An item gives its entries. -/
theorem Entry.ofItem?_eq_some_iff {v : Value} {entries : List Entry} :
    Entry.ofItem? v = some entries ↔ v.IsItem ∧ v.itemEntries = entries := by
  cases v <;> simp [Entry.ofItem?, Value.IsItem, Value.itemEntries]

/-- Items give their entries, in order. -/
theorem Entry.ofItems?_eq_some_iff {items : List Value} {entries : List Entry} :
    Entry.ofItems? items = some entries ↔
      (∀ item ∈ items, item.IsItem) ∧ items.flatMap Value.itemEntries = entries := by
  induction items generalizing entries with
  | nil => simp [Entry.ofItems?]
  | cons item rest ih =>
    rw [Entry.ofItems?, List.forall_mem_cons, List.flatMap_cons]
    constructor
    · intro h
      split at h
      · next first others hfirst hothers =>
        obtain ⟨hitem, rfl⟩ := Entry.ofItem?_eq_some_iff.mp hfirst
        obtain ⟨hrest, rfl⟩ := ih.mp hothers
        exact ⟨⟨hitem, hrest⟩, Option.some.inj h⟩
      · cases h
    · rintro ⟨⟨hitem, hrest⟩, rfl⟩
      rw [Entry.ofItem?_eq_some_iff.mpr ⟨hitem, rfl⟩, ih.mpr ⟨hrest, rfl⟩]

/-- The entries of a description are those that it lists. -/
theorem Entry.ofDescription_ok_iff {v : Value} {entries : List Entry} :
    Entry.ofDescription v = .ok entries ↔ v.ListsEntries ∧ v.entries = entries := by
  cases v with
  | array items =>
    rw [Entry.ofDescription, Value.ListsEntries, Value.entries, ← Entry.ofItems?_eq_some_iff]
    cases Entry.ofItems? items <;> simp
  | _ => simp [Entry.ofDescription, Value.ListsEntries, Value.IsItem, Value.entries,
      Value.itemEntries]

/-! ## Flags -/

/-- A flag is read from a boolean. -/
theorem succeeds_flagOf_iff {name : String} {v : Value} :
    Succeeds (flagOf name v) ↔ ∃ b, v = .bool b := by
  cases v <;> simp [flagOf]

/-! ## Rules -/

/-- A name is resolved to the rule that it leads to. -/
theorem Provider.resolveWithin_iff_leadsTo {p : Provider} {renames : Nat} {name : String}
    {d : Descriptor} (former : List String) :
    (∃ found, p.resolveWithin (renames + 1) name former = .ok found ∧ found.descriptor = d) ↔
      p.LeadsTo renames name d := by
  induction renames generalizing name former with
  | zero =>
    rw [resolveWithin]
    constructor
    · rintro ⟨found, hfound, rfl⟩
      split at hfound
      · next hd =>
        obtain rfl := Except.ok.inj hfound
        exact .current hd
      · split at hfound <;> cases hfound
    · rintro (hd | _)
      rw [hd]
      exact ⟨_, rfl, rfl⟩
  | succ renames ih =>
    rw [resolveWithin]
    constructor
    · rintro ⟨found, hfound, rfl⟩
      split at hfound
      · next hd =>
        obtain rfl := Except.ok.inj hfound
        exact .current hd
      · next hnone =>
        split at hfound
        · next hnext => exact .former hnone hnext ((ih _).mp ⟨found, hfound, rfl⟩)
        · cases hfound
    · rintro (hd | ⟨hnone, hnext, hleads⟩)
      · rw [hd]
        exact ⟨_, rfl, rfl⟩
      · rw [hnone, hnext]
        exact (ih _).mpr hleads

namespace Resolved

variable {p : Provider} {r : Resolved} {v : Value}

/-- The arguments that an entry gives are the values that its argument stands for. -/
theorem values_of_arguments {arguments : Arguments} (h : r.arguments v = .ok arguments) :
    arguments.values = argumentValues v := by
  unfold Resolved.arguments at h
  split at h
  · split at h
    · obtain rfl := Except.ok.inj h
      rfl
    · cases h
  · split at h
    · next hnone =>
      obtain rfl := Except.ok.inj h
      simp at hnone
      simp [Arguments.values, argumentValues, hnone]
    · split at h
      · obtain rfl := Except.ok.inj h
        rfl
      · cases h
  · next hswitch hlist =>
    split at h
    · obtain rfl := Except.ok.inj h
      rw [argumentValues.eq_def]
      split <;> simp_all [Arguments.values]
    · split at h
      · split at h <;> cases h
      · cases h

/-- An argument that suits a rule gives its arguments, and no other does. -/
theorem succeeds_arguments_iff (harity : r.descriptor.required ≤ r.descriptor.allowed) :
    Succeeds (r.arguments v) ↔ r.descriptor.Suits v := by
  unfold Resolved.arguments
  split
  · rw [Descriptor.Suits]
    by_cases h : r.descriptor.required = 0 <;> simp [takes, h]
  · next values =>
    rw [Descriptor.Suits]
    split
    · next hnone =>
      simp only [Bool.and_eq_true, List.isEmpty_iff, beq_iff_eq] at hnone
      simp [hnone]
      omega
    · by_cases h : r.takes values.length = true
      · simpa [h] using takes_iff.mp h
      · simpa [h] using fun hleast hmost => h (takes_iff.mpr ⟨hleast, hmost⟩)
  · next hswitch hlist =>
    have hsuits : r.descriptor.Suits v ↔ r.descriptor.allowed = 1 := by
      rw [Descriptor.Suits.eq_def]
      split <;> simp_all
    rw [hsuits]
    split
    · next hone => simp [hone]
    · next hnone =>
      split
      · split <;> simp [hnone]
      · simp [hnone]

/-- The arguments that an entry gives can be used if the rule can be run with its argument. -/
theorem succeeds_prepared_iff (harity : r.descriptor.required ≤ r.descriptor.allowed) :
    Succeeds (r.arguments v >>= r.prepared p) ↔ p.CanRun r.descriptor v := by
  rw [Provider.CanRun, ← succeeds_arguments_iff harity]
  simp only [Succeeds, bind_ok_iff, prepared_ok_iff]
  constructor
  · rintro ⟨_, arguments, harguments, hprepared, _⟩
    rw [values_of_arguments harguments] at hprepared
    exact ⟨⟨arguments, harguments⟩, hprepared⟩
  · rintro ⟨⟨arguments, harguments⟩, hprepared⟩
    rw [← values_of_arguments harguments] at hprepared
    exact ⟨arguments, arguments, harguments, hprepared, rfl⟩

end Resolved

/-! ## Lists of values -/

/-- A listed value has no fault if it is a scalar or an allowed null. -/
theorem enumValueFault?_eq_none_iff {allowsNull : Bool} {v : Value} :
    enumValueFault? allowsNull v = none ↔
      Standard.isScalar v = true ∨ allowsNull = true ∧ v = .null := by
  cases v <;> simp [enumValueFault?, Standard.isScalar, Standard.isBoolean, Standard.isNumber,
    Standard.isString]

/-- A list is its own content, or is wrapped around it. -/
theorem eq_or_eq_unwrapped (items : List Value) :
    items = unwrapped items ∨ items = [.array (unwrapped items)] := by
  unfold unwrapped
  split
  · exact Or.inr rfl
  · exact Or.inl rfl

/-- A list of values without faults is not wrapped around others. -/
theorem unwrapped_of_scalars {allowsNull : Bool} {values : List Value}
    (h : ∀ v ∈ values, enumValueFault? allowsNull v = none) : unwrapped values = values := by
  unfold unwrapped
  split
  · next inner =>
    have hinner := h (.array inner) List.mem_cons_self
    cases hinner
  · rfl

/-- The values that an enumeration lists are the content of its list. -/
theorem enumValues_cases {allowsNull : Bool} {v : Value} {values : List Value}
    (h : enumValues allowsNull v = .ok values) :
    ∃ items, v = .array items ∧ values = unwrapped items := by
  unfold enumValues at h
  split at h
  · next items =>
    simp only at h
    split at h
    · cases h
    · split at h
      · cases h
      · exact ⟨items, rfl, (Except.ok.inj h).symm⟩
  · cases h

/-- The values that an enumeration lists are read. -/
theorem succeeds_enumValues_iff {allowsNull : Bool} {v : Value} :
    Succeeds (enumValues allowsNull v) ↔ v.ListsValues allowsNull := by
  simp only [Value.ListsValues, ← enumValueFault?_eq_none_iff]
  constructor
  · rintro ⟨values, hvalues⟩
    obtain ⟨hnonempty, hscalars⟩ := enumValues_spec hvalues
    obtain ⟨items, rfl, rfl⟩ := enumValues_cases hvalues
    refine ⟨_, ?_, hnonempty, hscalars⟩
    exact (eq_or_eq_unwrapped items).imp (congrArg Value.array) (congrArg Value.array)
  · rintro ⟨values, hv, hnonempty, hscalars⟩
    have hread (items : List Value) (hitems : unwrapped items = values) :
        enumValues allowsNull (.array items) = .ok values := by
      have hfault := List.findSome?_eq_none_iff.mpr hscalars
      simp [enumValues, hitems, hnonempty, hfault]
    rcases hv with rfl | rfl
    · exact ⟨values, hread _ (unwrapped_of_scalars hscalars)⟩
    · exact ⟨values, hread _ rfl⟩

end Rulebook
