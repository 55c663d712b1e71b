import Rulebook.Proofs.Description.Steps

/-!
# Places of definition errors

A description is read together with its depth and its key path, which go along into every
description inside. The error of a description that cannot be read is at the place of one of the
descriptions inside, or at its own, and reading that one at its place ends with the same error: on
the way out nothing is added to it.
-/

namespace Rulebook

open Json (Value Members)

/-! ## Steps into a description -/

/-- A step from a description to one directly inside. -/
inductive DescriptionStep where
  | alternative
  | element (key : String)
  | items
  deriving DecidableEq, Repr

/-- A step as a key path spells it. A fallback is for the same subjects. -/
def DescriptionStep.text : DescriptionStep → String
  | .alternative => ""
  | .element key => "." ++ key
  | .items => "[*]"

/-- Steps as a key path spells them. -/
def descriptionPath : List DescriptionStep → String
  | [] => ""
  | step :: steps => step.text ++ descriptionPath steps

/-- The place that steps into a description lead to. -/
def Location.inside (place : Location) (steps : List DescriptionStep) : Location :=
  ⟨place.depth + steps.length, place.keyPath ++ descriptionPath steps⟩

/-- An entry has a description directly inside, one step away. -/
inductive Entry.LeadsTo : Entry → DescriptionStep → Value → Prop
  | alternative (v : Value) : LeadsTo (.core .alternativeRuleSet v) .alternative v
  | element {members declared : Members} {key : String} {v : Value}
      (elements : elementMembers members = .ok declared) (mem : (key, v) ∈ declared) :
      LeadsTo (.core .tableElements (.object members)) (.element key) v
  | items {v w : Value} {bounds : Nat × Option Nat}
      (described : itemDescription v = .ok (w, bounds)) :
      LeadsTo (.core .listItems v) .items w

/-- A description leads to one inside by some steps. -/
inductive Json.Value.Contains : Value → List DescriptionStep → Value → Prop
  | here (v : Value) : Contains v [] v
  | step {v w u : Value} {entries : List Entry} {entry : Entry} {step : DescriptionStep}
      {steps : List DescriptionStep} (lists : Entry.ofDescription v = .ok entries)
      (mem : entry ∈ entries) (leads : entry.LeadsTo step w) (rest : w.Contains steps u) :
      Contains v (step :: steps) u

namespace Location

/-- Without a step, a place is where it was. -/
theorem inside_nil (place : Location) : place.inside [] = place := by
  simp [inside, descriptionPath]

/-- The first of some steps may be made by itself. -/
theorem inside_cons (place : Location) (step : DescriptionStep) (steps : List DescriptionStep) :
    place.inside (step :: steps) = (place.inside [step]).inside steps := by
  simp only [inside, descriptionPath, List.length_cons, List.length_nil, String.append_assoc,
    String.empty_append]
  congr 1
  omega

/-- A fallback is one level deeper, at the same path. -/
theorem deeper_eq_inside (place : Location) : place.deeper = place.inside [.alternative] := by
  simp [inside, descriptionPath, DescriptionStep.text, deeper]

/-- An element is one level deeper, at the path of its key. -/
theorem element_eq_inside (place : Location) (key : String) :
    place.element key = place.inside [.element key] := by
  simp [inside, descriptionPath, DescriptionStep.text, element, String.append_assoc]

/-- Items are one level deeper, at the path of all of them. -/
theorem everyItem_eq_inside (place : Location) : place.everyItem = place.inside [.items] := by
  simp [inside, descriptionPath, DescriptionStep.text, everyItem]

end Location

/-! ## Steps of the reading that fail -/

/-- A step that fails ends with one of some errors. -/
def FailsOnly {ε α : Type} (E : ε → Prop) (step : Except ε α) : Prop :=
  ∀ e, step = .error e → E e

namespace FailsOnly

variable {ε α β : Type} {E : ε → Prop}

/-- A result is no failure. -/
@[simp]
theorem ok (a : α) : FailsOnly E (.ok a : Except ε α) := fun e h => by cases h

/-- An error is one of those that are allowed for. -/
@[simp]
theorem error_iff {e : ε} : FailsOnly E (.error e : Except ε α) ↔ E e := by
  constructor
  · exact fun h => h e rfl
  · rintro he e' h
    obtain rfl := Except.error.inj h
    exact he

/-- Two steps in a row fail as one of them does. -/
theorem bind {step : Except ε α} {next : α → Except ε β} (h : FailsOnly E step)
    (hnext : ∀ a, step = .ok a → FailsOnly E (next a)) : FailsOnly E (step >>= next) := by
  cases step with
  | ok a => exact hnext a rfl
  | error e => exact error_iff.mpr (error_iff.mp h)

/-- A step that fails with some errors fails with those that they are among. -/
theorem imp {E' : ε → Prop} {step : Except ε α} (h : FailsOnly E step)
    (himp : ∀ e, E e → E' e) : FailsOnly E' step :=
  fun e he => himp e (h e he)

/-- A fault that is put at a place is an error there. -/
theorem located {E : DefinitionError → Prop} {place : Location} {step : Except DefinitionFault α}
    (h : FailsOnly (fun fault => E ⟨fault, place⟩) step) :
    FailsOnly E (located place step) := by
  cases step with
  | ok a => exact ok a
  | error fault => exact error_iff.mpr (h fault rfl)

end FailsOnly

/-- A step may find a fault, but not that descriptions are nested too deep. -/
abbrev StaysShallow {α : Type} (step : Except DefinitionFault α) : Prop :=
  FailsOnly (fun fault => fault ≠ .recursionLimit) step

/-! ## Faults of a description by itself

No step but the first one of a reading looks at how many levels are left. -/

section Shallow

variable {p : Provider} {draft : Draft}

theorem staysShallow_ofDescription (v : Value) : StaysShallow (Entry.ofDescription v) := by
  unfold Entry.ofDescription
  split
  · simp
  · simp
  · split <;> simp
  · simp

theorem staysShallow_flagOf (name : String) (v : Value) : StaysShallow (flagOf name v) := by
  unfold flagOf
  split <;> simp

theorem staysShallow_valuesOf (key : CoreKey) (allowsNull : Bool) (v : Value) :
    StaysShallow (Draft.valuesOf key allowsNull v) := by
  unfold Draft.valuesOf
  split <;> simp

theorem staysShallow_take (name : String) (former : List String) :
    StaysShallow (draft.take name former) := by
  unfold Draft.take
  split <;> simp

theorem staysShallow_arguments (found : Resolved) (v : Value) :
    StaysShallow (found.arguments v) := by
  unfold Resolved.arguments Resolved.arityFault
  repeat' split
  all_goals simp

theorem staysShallow_prepared (found : Resolved) (arguments : Arguments) :
    StaysShallow (found.prepared p arguments) := by
  unfold Resolved.prepared
  split <;> simp

theorem staysShallow_addRule (name : String) (v : Value) :
    StaysShallow (draft.addRule p name v) := by
  unfold Draft.addRule
  split
  · simp
  · refine (staysShallow_take _ _).bind fun taken _ => ?_
    refine (staysShallow_arguments _ _).bind fun arguments _ => ?_
    refine (staysShallow_prepared _ _).bind fun prepared _ => ?_
    split <;> simp

theorem staysShallow_addEnum (v : Value) : StaysShallow (draft.addEnum v) :=
  (staysShallow_valuesOf _ _ _).bind fun _ _ => .ok _

theorem staysShallow_addAlternativeEnum (v : Value) :
    StaysShallow (draft.addAlternativeEnum v) :=
  (staysShallow_valuesOf _ _ _).bind fun _ _ => .ok _

theorem staysShallow_addAlternative (a : Ruleset) : StaysShallow (draft.addAlternative a) := by
  unfold Draft.addAlternative
  split <;> simp

theorem staysShallow_finish : StaysShallow (draft.finish p) := by
  have hemptiness : StaysShallow draft.emptiness := by
    unfold Draft.emptiness
    split <;> simp
  have hguarded (emptiness : Option Emptiness) : StaysShallow (draft.guarded p emptiness) := by
    unfold Draft.guarded
    repeat' split
    all_goals simp
  exact hemptiness.bind fun _ _ => (hguarded _).bind fun _ _ => .ok _

theorem staysShallow_keysOf (name : String) (declared known : List String) (items : List Value) :
    StaysShallow (keysOf name declared known items) := by
  induction items generalizing known with
  | nil => exact .ok _
  | cons item rest ih =>
    cases item with
    | string key =>
      unfold keysOf
      split
      · simp
      · exact ih _
    | _ => exact FailsOnly.error_iff.mpr nofun

theorem staysShallow_keyList? (name : String) (declared : List String) (setting : Option Value) :
    StaysShallow (keyList? name declared setting) := by
  unfold keyList?
  split
  · simp
  · next items =>
    have hkeys := staysShallow_keysOf name declared [] items
    split
    · simp
    · simp
    · next fault hfault => exact FailsOnly.error_iff.mpr (hkeys fault hfault)
  · simp

theorem staysShallow_ofMembers (declared : List String) (members : Members) :
    StaysShallow (Membership.ofMembers declared members) := by
  unfold Membership.ofMembers
  extract_lets policyOf
  have hpolicy (exclusive : Bool) : StaysShallow (policyOf exclusive) := by
    refine (staysShallow_keyList? _ _ _).bind fun whitelist _ => ?_
    refine (staysShallow_keyList? _ _ _).bind fun blacklist _ => ?_
    split <;> simp
  cases Association.lookup "exclusive" members with
  | none => exact hpolicy false
  | some v => exact (staysShallow_flagOf _ _).bind fun exclusive _ => hpolicy exclusive

theorem staysShallow_elementMembers (members : Members) :
    StaysShallow (elementMembers members) := by
  unfold elementMembers
  repeat' split
  all_goals simp

theorem staysShallow_occurrenceOf (name : String) (setting : Option Value) :
    StaysShallow (occurrenceOf name setting) := by
  unfold occurrenceOf
  repeat' split
  all_goals simp

theorem staysShallow_occurrences (members : Members) : StaysShallow (occurrences members) := by
  refine (staysShallow_occurrenceOf _ _).bind fun least _ => ?_
  refine (staysShallow_occurrenceOf _ _).bind fun most _ => ?_
  repeat' split
  all_goals simp

theorem staysShallow_itemDescription (v : Value) : StaysShallow (itemDescription v) := by
  have hsettings (members : Members) : StaysShallow (itemSettings members) := by
    have hbounds := staysShallow_occurrences members
    unfold itemSettings
    split
    · simp
    · split
      · simp
      · split
        · simp
        · next fault hfault => exact FailsOnly.error_iff.mpr (hbounds fault hfault)
  unfold itemDescription
  split
  · split
    · exact hsettings _
    · simp
  · simp

end Shallow

/-! ## Errors of a description -/

/-- An error is at a place, and is not that descriptions are nested too deep. -/
structure DefinitionError.OwnOf (place : Location) (e : DefinitionError) : Prop where
  place : e.place = place
  fault : e.fault ≠ .recursionLimit

/-- A step that stays shallow ends with errors of the place that it is made at. -/
theorem StaysShallow.located {α : Type} {step : Except DefinitionFault α} (h : StaysShallow step)
    (place : Location) : FailsOnly (DefinitionError.OwnOf place) (located place step) :=
  FailsOnly.located (h.imp fun _ hfault => ⟨rfl, hfault⟩)

/-- An error of an entry is one of the place that the entry is at, or that of reading a description
directly inside, at the place of that description. -/
def Entry.Blamed (read : RulesetReader) (place : Location) (entry : Entry) (e : DefinitionError) :
    Prop :=
  e.OwnOf place ∨ ∃ step w, entry.LeadsTo step w ∧ read w (place.inside [step]) = .error e

section Blame

variable {p : Provider} {read : RulesetReader} {place : Location} {draft : Draft}

/-- An element that cannot be read is at its place. -/
theorem readElements_failsOnly (members : Members) :
    FailsOnly (fun e => ∃ m ∈ members, read m.2 (place.element m.1) = .error e)
      (readElements read place members) := by
  induction members with
  | nil => exact .ok _
  | cons m rest ih =>
    obtain ⟨key, v⟩ := m
    refine FailsOnly.bind (fun e he => ⟨_, List.mem_cons_self, he⟩) fun r _ => ?_
    refine (ih.imp ?_).bind fun _ _ => .ok _
    rintro e ⟨m, hm, he⟩
    exact ⟨m, List.mem_cons_of_mem _ hm, he⟩

/-- A table that cannot be read has a fault of its own, or an element that cannot be read. -/
theorem TableElements.ofDescription_failsOnly (v : Value) :
    FailsOnly ((Entry.core .tableElements v).Blamed read place)
      (TableElements.ofDescription read place v) := by
  cases v with
  | object members =>
    refine FailsOnly.bind ((staysShallow_elementMembers members).located place |>.imp
      fun _ => Or.inl) fun declared hdeclared => ?_
    have helements := located_ok_iff.mp hdeclared
    split
    · exact FailsOnly.error_iff.mpr (Or.inl ⟨rfl, nofun⟩)
    · refine (readElements_failsOnly declared).imp ?_ |>.bind fun elements _ => ?_
      · rintro e ⟨m, hm, he⟩
        rw [Location.element_eq_inside] at he
        exact Or.inr ⟨_, _, .element helements hm, he⟩
      · refine FailsOnly.bind ?_ fun _ _ => .ok _
        refine (StaysShallow.located ?_ place).imp fun _ => Or.inl
        split
        · exact staysShallow_ofMembers _ _
        · exact .ok _
  | _ => exact FailsOnly.error_iff.mpr (Or.inl ⟨rfl, nofun⟩)

/-- A list that cannot be read has a fault of its own, or items that cannot be read. -/
theorem ListItems.ofDescription_failsOnly (v : Value) :
    FailsOnly ((Entry.core .listItems v).Blamed read place)
      (ListItems.ofDescription read place v) := by
  refine FailsOnly.bind ((staysShallow_itemDescription v).located place |>.imp
    fun _ => Or.inl) fun described hdescribed => ?_
  obtain ⟨w, bounds⟩ := described
  have hitems := located_ok_iff.mp hdescribed
  refine FailsOnly.bind (fun e he => ?_) fun _ _ => .ok _
  rw [Location.everyItem_eq_inside] at he
  exact Or.inr ⟨_, _, .items hitems, he⟩

/-- An entry that cannot be added is to blame. -/
theorem Draft.add_failsOnly (entry : Entry) :
    FailsOnly (entry.Blamed read place) (draft.add p read place entry) := by
  have hown {α : Type} {step : Except DefinitionFault α} (h : StaysShallow step) :
      FailsOnly (entry.Blamed read place) (located place step) :=
    (h.located place).imp fun _ => Or.inl
  cases entry with
  | rule name v => exact hown (staysShallow_addRule name v)
  | core key v =>
    refine (hown (staysShallow_take _ _)).bind fun named _ => ?_
    cases key with
    | optional | nullable | empty | nonEmpty =>
      exact (hown (staysShallow_flagOf _ _)).bind fun _ _ => .ok _
    | enum => exact hown (staysShallow_addEnum v)
    | alternativeEnum => exact hown (staysShallow_addAlternativeEnum v)
    | alternativeRuleSet =>
      refine FailsOnly.bind (fun e he => ?_) fun a _ => hown (staysShallow_addAlternative a)
      rw [Location.deeper_eq_inside] at he
      exact Or.inr ⟨_, _, .alternative v, he⟩
    | tableElements => exact (TableElements.ofDescription_failsOnly v).bind fun _ _ => .ok _
    | listItems => exact (ListItems.ofDescription_failsOnly v).bind fun _ _ => .ok _

/-- Where entries cannot be added, one of them is to blame. -/
theorem Draft.addAll_failsOnly (entries : List Entry) :
    FailsOnly (fun e => ∃ entry ∈ entries, entry.Blamed read place e)
      (draft.addAll p read place entries) := by
  induction entries generalizing draft with
  | nil => exact .ok _
  | cons entry rest ih =>
    refine FailsOnly.bind (fun e he => ?_) fun next _ => ih.imp ?_
    · exact ⟨entry, List.mem_cons_self, Draft.add_failsOnly entry e he⟩
    · rintro e ⟨other, hmem, hblamed⟩
      exact ⟨other, List.mem_cons_of_mem _ hmem, hblamed⟩

end Blame

namespace Ruleset

variable {p : Provider} {levels : Nat} {description : Value} {place : Location}
  {e : DefinitionError}

/-- The error of a description with a level left is its own, or that of a description directly
inside. -/
theorem ofDescriptionWithin_succ_error
    (h : ofDescriptionWithin p (levels + 1) description place = .error e) :
    e.OwnOf place ∨ ∃ step inner, description.Contains [step] inner ∧
      ofDescriptionWithin p levels inner (place.inside [step]) = .error e := by
  have hfails : FailsOnly
      (fun e => e.OwnOf place ∨ ∃ step inner, description.Contains [step] inner ∧
        ofDescriptionWithin p levels inner (place.inside [step]) = .error e)
      (ofDescriptionWithin p (levels + 1) description place) := by
    refine FailsOnly.bind ?_ fun entries hlists => FailsOnly.bind ?_ fun draft _ => ?_
    · exact ((staysShallow_ofDescription description).located place).imp fun _ => Or.inl
    · refine (Draft.addAll_failsOnly entries).imp ?_
      rintro e ⟨entry, hmem, hown | ⟨step, inner, hleads, hinner⟩⟩
      · exact Or.inl hown
      · have hcontains : description.Contains [step] inner :=
          .step (located_ok_iff.mp hlists) hmem hleads (.here inner)
        exact Or.inr ⟨step, inner, hcontains, hinner⟩
    · exact (staysShallow_finish.located place).imp fun _ => Or.inl
  exact hfails e h

/-- The place of an error is that of some description inside, or of the whole, and reading that one
there ends with the same error. Only where no level is left is it that descriptions are nested too
deep. -/
theorem ofDescriptionWithin_error (hlevels : place.depth + levels = maxDepth + 1)
    (h : ofDescriptionWithin p levels description place = .error e) :
    (∃ steps inner, description.Contains steps inner ∧ e.place = place.inside steps ∧
      ofDescriptionAt p inner e.place = .error e) ∧
    (e.fault = .recursionLimit ↔ e.place.depth = maxDepth + 1) := by
  induction levels generalizing description place with
  | zero =>
    obtain rfl := Except.error.inj h
    have hlimit : ofDescriptionAt p description place = .error ⟨.recursionLimit, place⟩ := by
      have hnone : maxDepth + 1 - place.depth = 0 := by omega
      rw [ofDescriptionAt, hnone]
      rfl
    exact ⟨⟨[], description, .here description, (place.inside_nil).symm, hlimit⟩,
      iff_of_true rfl (by omega)⟩
  | succ levels ih =>
    rcases ofDescriptionWithin_succ_error h with hown | ⟨step, inner, hcontains, hinner⟩
    · have hhere : ofDescriptionAt p description place = .error e := by
        have hleft : maxDepth + 1 - place.depth = levels + 1 := by omega
        rw [ofDescriptionAt, hleft]
        exact h
      refine ⟨⟨[], description, .here description, ?_, ?_⟩, iff_of_false hown.fault ?_⟩
      · rw [hown.place, Location.inside_nil]
      · rw [hown.place]
        exact hhere
      · rw [hown.place]
        omega
    · have hbelow : (place.inside [step]).depth + levels = maxDepth + 1 := by
        simp only [Location.inside, List.length_singleton]
        omega
      obtain ⟨⟨steps, found, hfound, hplace, herror⟩, hlimit⟩ := ih hbelow hinner
      cases hcontains with
      | step lists mem leads rest =>
        cases rest
        refine ⟨⟨step :: steps, found, .step lists mem leads hfound, ?_, herror⟩, hlimit⟩
        rw [hplace, ← Location.inside_cons]

/-- The error of a description that cannot be read at a place, no deeper than level ten, is at the
place of a description inside, or at its own: its depth is as much greater as there are steps to
that one, and its path spells them. Reading that description there ends with the same error. The
error is that descriptions are nested too deep exactly if its depth is eleven. -/
theorem ofDescriptionAt_error (hdepth : place.depth ≤ 10)
    (h : ofDescriptionAt p description place = .error e) :
    (∃ steps inner, description.Contains steps inner ∧
      e.place = ⟨place.depth + steps.length, place.keyPath ++ descriptionPath steps⟩ ∧
      ofDescriptionAt p inner e.place = .error e) ∧
    (e.fault = .recursionLimit ↔ e.place.depth = 11) := by
  have hlevels : place.depth + (maxDepth + 1 - place.depth) = maxDepth + 1 := by
    simp only [maxDepth]
    omega
  exact ofDescriptionWithin_error hlevels h

/-- Lists of texts under a key, each of them with a fallback that is spelled wrong. -/
def misspeltFallback : Value :=
  .object
    [("tableElements", .object
      [("saddle", .object
        [("listItems", .object
          [("string", .bool true), ("alternativeRuleSet", .string "intger")])])])]

/-- The fallback is three steps inside, the last of which has no text in the path. -/
theorem misspeltFallback_error :
    ∃ e, ofDescriptionAt .standard misspeltFallback .root = .error e ∧
      e.place = ⟨3, "root.saddle[*]"⟩ ∧ e.fault ≠ .recursionLimit ∧
      ∃ steps inner, misspeltFallback.Contains steps inner ∧ steps.length = 3 ∧
        ofDescriptionAt .standard inner e.place = .error e := by
  have herror : ofDescriptionAt .standard misspeltFallback .root =
      .error ⟨.unknownRule "intger" [], ⟨3, "root.saddle[*]"⟩⟩ := rfl
  obtain ⟨⟨steps, inner, hcontains, hplace, hinner⟩, hlimit⟩ :=
    ofDescriptionAt_error (by decide) herror
  have hlength : steps.length = 3 := by
    simpa [Location.root] using (congrArg Location.depth hplace).symm
  refine ⟨_, herror, rfl, fun h => ?_, steps, inner, hcontains, hlength, hinner⟩
  have hdepth := hlimit.mp h
  simp at hdepth

end Ruleset

end Rulebook
