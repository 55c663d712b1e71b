import Rulebook.Proofs.Description.Changes
import Rulebook.Proofs.Description.Drafting

/-!
# Reading canonical descriptions

The canonical description of a regular ruleset binds no key twice, and is read back as the plain
form of the ruleset. Since every ruleset that is read is regular, reading a ruleset, describing it
and reading it again gives an equal ruleset with the same description.
-/

namespace Rulebook

open Json (Value Members)

/-- Members with distinct keys are bound as they are. -/
theorem bindAll_of_nodup {members : Members} (h : (Association.keys members).Nodup) :
    bindAll [] members = members := by
  have hall : ∀ bound, (Association.keys (bound ++ members)).Nodup →
      bindAll bound members = bound ++ members := by
    clear h
    induction members with
    | nil => simp [bindAll]
    | cons m rest ih =>
      intro bound hnodup
      have hsplit : bound ++ m :: rest = bound ++ [m] ++ rest := by simp
      have hfresh : m.1 ∉ Association.keys bound := by
        simp only [Association.keys, List.map_append, List.map_cons] at hnodup
        exact fun hmem => (List.nodup_append.mp hnodup).2.2 _ hmem _ List.mem_cons_self rfl
      have hrest := ih (bound ++ [m]) (hsplit ▸ hnodup)
      simpa [bindAll, Association.insert_of_not_mem hfresh] using hrest
  exact hall [] h

namespace Ruleset

variable {p : Provider} {r : Ruleset}

/-- The core names that a canonical description may have besides its rules. -/
def partNames : List String := (CoreKey.all.erase .enum).map CoreKey.name

/-- No rule of a sound ruleset has one of these names. -/
theorem Sound.name_not_mem_partNames (h : r.Sound p) (hp : p.Coherent) {q : Rule}
    (hq : q ∈ r.rules) : q.name ∉ partNames := by
  have hdescribed {d : Descriptor} (hd : p.descriptor q.name = some d) : q.name ∉ partNames := by
    intro hmem
    obtain ⟨key, _, hkey⟩ := List.mem_map.mp hmem
    rw [← hkey, hp.core_free key] at hd
    cases hd
  rcases List.mem_append.mp hq with htype | hpattern
  · obtain ⟨_, d, _, hfits⟩ := h.typeRules q htype
    exact hdescribed hfits.described
  · rcases h.patternRules q hpattern with ⟨_, d, _, hfits⟩ | ⟨_, hname, _⟩
    · exact hdescribed hfits.described
    · rw [hname]
      decide

/-- The keys of rules are their names. -/
theorem keys_ruleMembers (rules : List Rule) :
    Association.keys (ruleMembers rules) = rules.map Rule.name := by
  simp [Association.keys, ruleMembers]

/-- The keys of the members of parts are core names, in their order. -/
theorem keys_flags_parts_sublist (r : Ruleset) :
    (Association.keys r.flagMembers ++ Association.keys r.partMembers).Sublist partNames := by
  have hflag (name : String) (b : Bool) :
      (Association.keys (flagMember name b)).Sublist [name] := by
    cases b <;> simp [flagMember, Association.keys]
  have hempty : (Association.keys (emptinessMember r.emptiness)).Sublist ["empty", "nonEmpty"] := by
    cases r.emptiness with
    | none => simp [emptinessMember, Association.keys]
    | some e => cases e <;> decide
  have hpart {α : Type} (key : CoreKey) (describe : α → Value) (part : Option α) :
      (Association.keys (partMember key describe part)).Sublist [key.name] := by
    cases part <;> simp [partMember, Association.keys]
  simp only [flagMembers, partMembers, Association.keys, List.map_append, List.append_assoc]
  exact (hflag _ _).append ((hflag _ _).append (hempty.append ((hpart _ _ _).append
    ((hpart _ _ _).append ((hpart _ _ _).append (hpart _ _ _))))))

/-- The canonical description of a sound ruleset binds no key twice. -/
theorem Sound.nodup_keys_members (h : r.Sound p) (hp : p.Coherent) :
    (Association.keys r.members).Nodup := by
  have hsublist := keys_flags_parts_sublist r
  have hperm : (Association.keys r.members).Perm (r.rules.map Rule.name ++
      (Association.keys r.flagMembers ++ Association.keys r.partMembers)) := by
    have hkeys : Association.keys r.members = r.typeRules.map Rule.name ++
        (Association.keys r.flagMembers ++
          (r.patternRules.map Rule.name ++ Association.keys r.partMembers)) := by
      rw [← keys_ruleMembers, ← keys_ruleMembers]
      simp [members, Association.keys]
    rw [hkeys, rules, List.map_append, List.append_assoc]
    exact (List.perm_append_comm_assoc _ _ _).append_left _
  rw [hperm.nodup_iff, List.nodup_append]
  refine ⟨h.names, hsublist.nodup (by decide), ?_⟩
  rintro name hname _ hpart rfl
  obtain ⟨q, hq, rfl⟩ := List.mem_map.mp hname
  exact h.name_not_mem_partNames hp hq (hsublist.subset hpart)

/-- The plain form of a ruleset has the same parts that a fallback must not have. -/
theorem nestedPart?_plain (a : Ruleset) : Draft.nestedPart? a.plain = Draft.nestedPart? a := by
  rw [plain_eq]
  simp [Draft.nestedPart?, plainWith]

/-- The canonical description of a sound ruleset is read back part by part, with a guard in front of
rules for children that have none. -/
theorem Sound.ofDescriptionWithin_toJson (h : r.Sound p) (hp : p.Coherent)
    (htyped : r.typeRules = [] → r.patternRules = [])
    (hflagged : r.typeRules = [] → r.emptiness.isSome = true) {levels : Nat}
    {back : Ruleset → Ruleset}
    (hread : ∀ q ∈ r.parts, ∀ place, ofDescriptionWithin p levels q.toJson place = .ok (back q))
    (hnested : ∀ a, Draft.nestedPart? (back a) = Draft.nestedPart? a) (place : Location) :
    ofDescriptionWithin p (levels + 1) r.toJson place =
      .ok ((r.plainWith back).withContainerGuard p) := by
  have hnodup := h.nodup_keys_members hp
  obtain ⟨names, first, hfirst, hdraft⟩ := Draft.addAll_members place h hp hread hnested hnodup
  have hfinish : (Draft.ofRuleset (r.plainWith back) names first).finish p =
      .ok ((r.plainWith back).withContainerGuard p) :=
    Draft.finish_ofRuleset (by simpa [plainWith] using htyped)
      (by simpa [plainWith] using hflagged) names (by simpa [plainWith] using hfirst)
  rw [toJson_eq, bindAll_of_nodup hnodup]
  exact bind_ok_iff.mpr ⟨_, rfl, bind_ok_iff.mpr ⟨_, hdraft, located_ok_iff.mpr hfinish⟩⟩

/-- The canonical description of a regular ruleset is read as its plain form. -/
theorem Regular.ofDescriptionWithin_toJson {levels : Nat} (h : r.Regular p levels)
    (hp : p.Coherent) (place : Location) :
    ofDescriptionWithin p levels r.toJson place = .ok r.plain := by
  induction h generalizing place with
  | @node levels r sound guarded _ ih =>
    rw [plain_eq, ← (guarded.guardsChildren.plainWith plain).withContainerGuard_eq]
    exact sound.ofDescriptionWithin_toJson hp (fun hnone => (guarded hnone).1)
      (fun hnone => (guarded hnone).2.2) ih nestedPart?_plain place

/-- Reading is idempotent over canonical descriptions: under a coherent provider, of which the
standard one is an example, the description of a ruleset that was read is read as an equal ruleset
with the same description. -/
theorem ofDescriptionAt_toJson [PatternEngine] :
    (∀ p : Provider, p.Coherent → ∀ description : Value, description.KeysDistinct →
      ∀ place r, ofDescriptionAt p description place = .ok r →
        ∃ again, ofDescriptionAt p r.toJson place = .ok again ∧
          again.same r = true ∧ again.toJson = r.toJson) ∧
    Provider.standard.Coherent := by
  refine ⟨fun p hp description hdistinct place r hread => ?_, Provider.standard_coherent⟩
  have hregular := regular_of_ofDescriptionWithin hp description place r hdistinct hread
  exact ⟨r.plain, hregular.ofDescriptionWithin_toJson hp place,
    same_plain hregular.everywhere_sound, r.toJson_plain⟩

/-- At most three ones and twos, or none, under a former name and with a wrapped list of values. -/
def fewOnesAndTwos : Value :=
  .object
    [("array", .bool true),
      ("alternativeEnum", .array [.null, .string "none"]),
      ("listItems", .object
        [("itemRules", .object
          [("enum", .array [.array [.number (.int 1), .number (.int 2)]])]),
        ("maxOccur", .number (.int 3))])]

/-- The description is read, and its canonical form is read as an equal ruleset. -/
theorem fewOnesAndTwos_read :
    ∃ r again, ofDescriptionAt Provider.standard fewOnesAndTwos .root = .ok r ∧
      ofDescriptionAt Provider.standard r.toJson .root = .ok again ∧
      again.same r = true ∧ again.toJson = r.toJson := by
  obtain ⟨r, hread⟩ : ∃ r, ofDescriptionAt Provider.standard fewOnesAndTwos .root = .ok r :=
    ⟨_, rfl⟩
  have hdistinct : fewOnesAndTwos.KeysDistinct := by
    simp [fewOnesAndTwos, Association.keys, Value.KeysDistinct, Value.ItemsKeysDistinct,
      Value.MembersKeysDistinct]
  obtain ⟨again, hagain⟩ :=
    ofDescriptionAt_toJson.1 _ ofDescriptionAt_toJson.2 _ hdistinct .root r hread
  exact ⟨r, again, hread, hagain⟩

end Ruleset

end Rulebook
