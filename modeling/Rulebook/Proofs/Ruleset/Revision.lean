import Rulebook.Proofs.Ruleset.Parts

/-!
# Revisions of rulesets

A revision of a ruleset changes one ruleset in it, which is the ruleset itself or lies at any depth in
its fallback, in its table or in its list, and leaves the rest as it is.
-/

namespace Rulebook

/-- Where the value of one entry is replaced by a related one, what is found under a key is related. -/
theorem Association.rel_lookup_replaced {α : Type} {R : α → α → Prop} (hrefl : ∀ a, R a a)
    {value value' : α} (h : R value value') (before after : List (String × α)) (place key : String) :
    Option.Rel R (lookup key (before ++ (place, value) :: after))
      (lookup key (before ++ (place, value') :: after)) := by
  induction before with
  | nil =>
    by_cases hkey : place = key
    · simpa [lookup, hkey] using h
    · simp only [List.nil_append, lookup, if_neg hkey]
      cases lookup key after with
      | none => exact .none
      | some a => exact .some (hrefl a)
  | cons e rest ih =>
    obtain ⟨k, a⟩ := e
    by_cases hkey : k = key
    · simpa [lookup, hkey] using hrefl a
    · simpa [lookup, hkey] using ih

namespace Ruleset

/-- One ruleset in a ruleset is changed. -/
inductive Revised (Change : Ruleset → Ruleset → Prop) : Ruleset → Ruleset → Prop
  | here {r r' : Ruleset} (change : Change r r') : Revised Change r r'
  /-- The change is in the fallback. -/
  | alternative {r a a' : Ruleset} (declares : r.alternativeRuleSet = some a)
      (revised : Revised Change a a') : Revised Change r { r with alternativeRuleSet := some a' }
  /-- The change is in what is declared for an element. -/
  | element {r q q' : Ruleset} {t : TableElements Ruleset} {key : String}
      {before after : List (String × Ruleset)} (declares : r.tableElements = some t)
      (elements : t.elements = before ++ (key, q) :: after) (revised : Revised Change q q') :
      Revised Change r
        (r.withTableElements { t with elements := before ++ (key, q') :: after })
  /-- The change is in what is declared for items. -/
  | items {r q' : Ruleset} {l : ListItems Ruleset} (declares : r.listItems = some l)
      (revised : Revised Change l.itemRules q') :
      Revised Change r (r.withListItems (l.withItemRules q'))

/-- What holds everywhere in a ruleset still does when it is revised, if a change keeps it everywhere
and a revision of a part keeps it of the whole. -/
theorem Revised.everywhere {Change : Ruleset → Ruleset → Prop} {P : Ruleset → Prop}
    (hchange : ∀ {q q'}, Change q q' → q.Everywhere P → q'.Everywhere P)
    (hkeep : ∀ {q q'}, Revised Change q q' → P q → P q') {r r' : Ruleset}
    (h : Revised Change r r') (hr : r.Everywhere P) : r'.Everywhere P := by
  induction h with
  | here change => exact hchange change hr
  | alternative declares revised ih =>
    refine .node (hkeep (.alternative declares revised) hr.here) (forall_mem_parts ?_ ?_ ?_)
    · rintro b hb
      obtain rfl := Option.some.inj hb
      exact ih (hr.parts _ (mem_parts_of_alternative declares))
    · exact fun t ht e he => hr.parts _ (mem_parts_of_element ht he)
    · exact fun l hl => hr.parts _ (mem_parts_of_items hl)
  | @element r q q' t key before after declares elements revised ih =>
    have hold : ∀ e ∈ before ++ (key, q) :: after, e.2.Everywhere P := fun e he =>
      hr.parts _ (mem_parts_of_element declares (elements ▸ he))
    obtain ⟨hbefore, hhere⟩ := List.forall_mem_append.mp hold
    obtain ⟨hq, hafter⟩ := List.forall_mem_cons.mp hhere
    exact .node (hkeep (.element declares elements revised) hr.here)
      (forall_mem_parts_withTableElements hr.parts
        (List.forall_mem_append.mpr ⟨hbefore, List.forall_mem_cons.mpr ⟨ih hq, hafter⟩⟩))
  | items declares revised ih =>
    exact .node (hkeep (.items declares revised) hr.here)
      (forall_mem_parts_withListItems hr.parts (ih (hr.parts _ (mem_parts_of_items declares))))

end Ruleset

end Rulebook
