import Rulebook.Proofs.Description.Steps

/-!
# Places and levels do not matter to what is read

What is read from a description does not depend on where it stands, nor on how many levels are left, as
long as they are enough. Places are there for reports, and levels only run out: a description that is
read with some levels left is read with more, and with fewer it either is read to the same ruleset or
is found to be nested too deep, one level below the last.
-/

namespace Rulebook

open Json (Value Members)

/-- What one reader reads anywhere, the other one reads everywhere. -/
def ReadsLike (read read' : RulesetReader) : Prop :=
  ∀ v place r, read v place = .ok r → ∀ place', read' v place' = .ok r

/-- A step comes to a result, if it does not end with one of some errors. -/
def Yields {α : Type} (E : DefinitionError → Prop) (step : Except DefinitionError α) (a : α) : Prop :=
  step = .ok a ∨ ∃ e, step = .error e ∧ E e

namespace Yields

variable {α β : Type} {E : DefinitionError → Prop} {step : Except DefinitionError α} {a : α}

/-- Where no error is allowed for, a step comes to its result. -/
theorem eq_ok (h : Yields (fun _ => False) step a) : step = .ok a :=
  h.resolve_right fun ⟨_, _, hnever⟩ => hnever

/-- Two steps in a row come to the result of the second, if each of them comes to its own. -/
theorem bind {next : α → Except DefinitionError β} {b : β} (h : Yields E step a)
    (hnext : Yields E (next a) b) : Yields E (step >>= next) b := by
  rcases h with rfl | ⟨e, rfl, he⟩
  · exact hnext
  · exact Or.inr ⟨e, rfl, he⟩

end Yields

/-- What one reader reads anywhere, the other one reads everywhere, if it does not end with one of the
errors that are allowed for at its depth. -/
def ReadsUnless (E : Nat → DefinitionError → Prop) (read read' : RulesetReader) : Prop :=
  ∀ v place r, read v place = .ok r → ∀ place', Yields (E place'.depth) (read' v place') r

section Children

variable {E : Nat → DefinitionError → Prop} {read read' : RulesetReader}
  (hlike : ReadsUnless E read read') {place : Location}

include hlike

/-- Elements are read alike. -/
theorem readElements_alike {members : Members} {elements : List (String × Ruleset)}
    (h : readElements read place members = .ok elements) (place' : Location) :
    Yields (E (place'.depth + 1)) (readElements read' place' members) elements := by
  induction members generalizing elements with
  | nil => exact Or.inl h
  | cons m rest ih =>
    simp only [readElements, bind_ok_iff] at h
    obtain ⟨r, hr, others, hothers, h⟩ := h
    exact (hlike _ _ _ hr _).bind ((ih hothers).bind (Or.inl h))

/-- Tables are read alike. -/
theorem TableElements.ofDescription_alike {v : Value} {t : TableElements Ruleset}
    (h : TableElements.ofDescription read place v = .ok t) (place' : Location) :
    Yields (E (place'.depth + 1)) (TableElements.ofDescription read' place' v) t := by
  cases v with
  | object members =>
    simp only [TableElements.ofDescription, bind_ok_iff, located_ok_iff] at h ⊢
    obtain ⟨declared, hdeclared, h⟩ := h
    refine .bind (Or.inl (located_ok_iff.mpr hdeclared)) ?_
    split at h
    · cases h
    · next hnonempty =>
      simp only [bind_ok_iff, located_ok_iff] at h
      obtain ⟨elements, helements, membership, hmembership, h⟩ := h
      rw [if_neg hnonempty]
      refine .bind (readElements_alike hlike helements place') ?_
      exact .bind (Or.inl (located_ok_iff.mpr hmembership)) (Or.inl h)
  | _ => cases h

/-- Lists are read alike. -/
theorem ListItems.ofDescription_alike {v : Value} {l : ListItems Ruleset}
    (h : ListItems.ofDescription read place v = .ok l) (place' : Location) :
    Yields (E (place'.depth + 1)) (ListItems.ofDescription read' place' v) l := by
  simp only [ListItems.ofDescription, bind_ok_iff, located_ok_iff] at h
  obtain ⟨settings, hsettings, rules, hrules, h⟩ := h
  refine .bind (Or.inl (located_ok_iff.mpr hsettings)) ?_
  exact .bind (hlike _ _ _ hrules _) (Or.inl h)

end Children

namespace Draft

variable {p : Provider} {E : Nat → DefinitionError → Prop} {read read' : RulesetReader}
  (hlike : ReadsUnless E read read') {place : Location} {draft next : Draft}

include hlike

/-- Core entries are added alike. -/
theorem addCore_alike {key : CoreKey} {v : Value}
    (h : draft.addCore read place key v = .ok next) (place' : Location) :
    Yields (E (place'.depth + 1)) (draft.addCore read' place' key v) next := by
  cases key with
  | optional | nullable | empty | nonEmpty | enum | alternativeEnum =>
    refine Or.inl ?_
    simpa only [addCore, bind_ok_iff, located_ok_iff] using h
  | alternativeRuleSet =>
    simp only [addCore, bind_ok_iff, located_ok_iff] at h
    obtain ⟨r, hr, h⟩ := h
    exact .bind (hlike _ _ _ hr _) (Or.inl (located_ok_iff.mpr h))
  | tableElements =>
    simp only [addCore, bind_ok_iff] at h
    obtain ⟨t, ht, h⟩ := h
    exact .bind (TableElements.ofDescription_alike hlike ht place') (Or.inl h)
  | listItems =>
    simp only [addCore, bind_ok_iff] at h
    obtain ⟨l, hl, h⟩ := h
    exact .bind (ListItems.ofDescription_alike hlike hl place') (Or.inl h)

/-- Entries are added alike. -/
theorem addAll_alike {entries : List Entry}
    (h : draft.addAll p read place entries = .ok next) (place' : Location) :
    Yields (E (place'.depth + 1)) (draft.addAll p read' place' entries) next := by
  induction entries generalizing draft with
  | nil => exact Or.inl h
  | cons entry rest ih =>
    simp only [addAll, bind_ok_iff] at h
    obtain ⟨middle, hfirst, hrest⟩ := h
    refine .bind ?_ (ih hrest)
    cases entry with
    | core key v =>
      simp only [add, bind_ok_iff, located_ok_iff] at hfirst
      obtain ⟨named, hnamed, hcore⟩ := hfirst
      exact .bind (Or.inl (located_ok_iff.mpr hnamed)) (addCore_alike hlike hcore place')
    | rule name v =>
      refine Or.inl ?_
      simpa only [add, located_ok_iff] using hfirst

end Draft

namespace Ruleset

variable {p : Provider} {description : Value} {place place' : Location} {r : Ruleset}

/-- With one level more on either side, what is inside is read one level deeper. -/
theorem ofDescriptionWithin_succ_alike {E : Nat → DefinitionError → Prop} {levels levels' : Nat}
    (hlike : ReadsUnless E (ofDescriptionWithin p levels) (ofDescriptionWithin p levels')) :
    ReadsUnless (fun depth => E (depth + 1)) (ofDescriptionWithin p (levels + 1))
      (ofDescriptionWithin p (levels' + 1)) := by
  intro v place r h place'
  simp only [ofDescriptionWithin, bind_ok_iff, located_ok_iff] at h
  obtain ⟨entries, hentries, draft, hdraft, hfinish⟩ := h
  refine .bind (Or.inl (located_ok_iff.mpr hentries)) ?_
  exact .bind (Draft.addAll_alike hlike hdraft place') (Or.inl (located_ok_iff.mpr hfinish))

/-- What is read with some levels left is read with more, and at every place. -/
theorem ofDescriptionWithin_mono {levels more : Nat} (hle : levels ≤ more) :
    ReadsLike (ofDescriptionWithin p levels) (ofDescriptionWithin p more) := by
  have hunless : ReadsUnless (fun _ _ => False) (ofDescriptionWithin p levels)
      (ofDescriptionWithin p more) := by
    induction levels generalizing more with
    | zero =>
      intro v place r h
      cases h
    | succ levels ih =>
      obtain ⟨more, rfl⟩ : ∃ less, more = less + 1 := ⟨more - 1, by omega⟩
      exact ofDescriptionWithin_succ_alike (ih (by omega))
  exact fun v place r h place' => (hunless v place r h place').eq_ok

/-- With so many levels left at a depth, the description is found to be nested too deep right below the
last of them. -/
def RunsOut (levels depth : Nat) (e : DefinitionError) : Prop :=
  e.fault = .recursionLimit ∧ e.place.depth = depth + levels

/-- What is read with some levels left is read with any other number of levels, and at every place,
unless these run out. -/
theorem ofDescriptionWithin_unless_runsOut (levels levels' : Nat) :
    ReadsUnless (RunsOut levels') (ofDescriptionWithin p levels) (ofDescriptionWithin p levels') := by
  induction levels' generalizing levels with
  | zero =>
    intro v place r _ place'
    exact Or.inr ⟨⟨.recursionLimit, place'⟩, rfl, rfl, rfl⟩
  | succ levels' ih =>
    cases levels with
    | zero =>
      intro v place r h
      cases h
    | succ levels =>
      intro v place r h place'
      have hsucc := ofDescriptionWithin_succ_alike (ih levels) v place r h place'
      refine hsucc.imp_right ?_
      rintro ⟨e, he, hfault, hdepth⟩
      exact ⟨e, he, hfault, by omega⟩

/-- A description that is read at some depth is read to the same ruleset at every lesser depth and at
every path. At a greater depth it is read to the same ruleset too, or is found to be nested too deep: at
depth eleven, or at its own depth if that is greater. -/
theorem ofDescriptionAt_elsewhere (hle : place.depth ≤ place'.depth) :
    (ofDescriptionAt p description place' = .ok r → ofDescriptionAt p description place = .ok r) ∧
    (ofDescriptionAt p description place = .ok r →
      ofDescriptionAt p description place' = .ok r ∨
      ∃ e, ofDescriptionAt p description place' = .error e ∧ e.fault = .recursionLimit ∧
        e.place.depth = max place'.depth 11) := by
  constructor
  · intro h
    have hlevels : maxDepth + 1 - place'.depth ≤ maxDepth + 1 - place.depth := by omega
    exact ofDescriptionWithin_mono hlevels _ _ _ h _
  · intro h
    refine (ofDescriptionWithin_unless_runsOut _ _ _ _ _ h place').imp_right ?_
    rintro ⟨e, he, hfault, hdepth⟩
    have hlast : place'.depth + (maxDepth + 1 - place'.depth) = max place'.depth 11 := by
      simp only [maxDepth]
      omega
    exact ⟨e, he, hfault, hdepth.trans hlast⟩

/-- Lists of lists of integers. -/
def listsOfIntegers : Value :=
  .object [("listItems", .object [("listItems", .string "integer")])]

/-- With two levels of lists in it, the description is read at depth eight as it is read at the top, and is
too deep at depth nine. -/
theorem listsOfIntegers_elsewhere :
    ∃ r, ofDescriptionAt .standard listsOfIntegers ⟨8, "root.a"⟩ = .ok r ∧
      ofDescriptionAt .standard listsOfIntegers .root = .ok r ∧
      ∃ e, ofDescriptionAt .standard listsOfIntegers ⟨9, "root.b"⟩ = .error e ∧
        e.fault = .recursionLimit ∧ e.place.depth = 11 := by
  obtain ⟨r, hr⟩ : ∃ r, ofDescriptionAt .standard listsOfIntegers ⟨8, "root.a"⟩ = .ok r := ⟨_, rfl⟩
  have hdeep : ofDescriptionAt .standard listsOfIntegers ⟨9, "root.b"⟩ =
      .error ⟨.recursionLimit, ⟨11, "root.b[*][*]"⟩⟩ := rfl
  have htop : Location.root.depth ≤ (⟨8, "root.a"⟩ : Location).depth := by decide
  have hbelow : (⟨8, "root.a"⟩ : Location).depth ≤ (⟨9, "root.b"⟩ : Location).depth := by decide
  refine ⟨r, hr, (ofDescriptionAt_elsewhere htop).1 hr, ?_⟩
  refine ((ofDescriptionAt_elsewhere hbelow).2 hr).resolve_left fun hread => ?_
  rw [hdeep] at hread
  cases hread

end Ruleset

end Rulebook
