import Rulebook.Proofs.Challenge.Places
import Rulebook.Proofs.Description.KnownNames

/-!
# Lines that a terminal shows as they are

Text from outside enters a line of a record as keys and previews of subjects, as arguments of rules and as
declared keys, and always as an excerpt. The names of rules are those that the provider knows, wherever
they came from, and all the rest of a line is fixed text and numbers. So no line has a character that a
terminal acts on, unless the key path at the top has one.
-/

namespace Rulebook

open Json (Value)
open Text

/-! ## What is reported -/

/-- The failures that a ruleset may report of a subject itself. -/
inductive Ruleset.Reports (r : Ruleset) : FailureKind → Prop
  | rule {q : Rule} (declared : q ∈ r.rules) (tried : List Fallback) :
      r.Reports (.rule (.declared q) tried)
  | nonEmpty (tried : List Fallback) : r.Reports (.rule .nonEmpty tried)
  | null (tried : List Fallback) : r.Reports (.null tried)
  | notLoopable : r.Reports .notLoopable
  | table {t : TableElements Ruleset} {kind : FailureKind} (declares : r.tableElements = some t)
      (h : kind.OfTable t.membership) : r.Reports kind
  | items {l : ListItems Ruleset} {kind : FailureKind} (declares : r.listItems = some l)
      (h : kind.OfItems) : r.Reports kind

namespace Ruleset

/-- The rule that a subject is turned down by is one of the main rules. -/
theorem reports_of_mainVerdict {p : Provider} {r : Ruleset} {subject : Value} {shortfall : Shortfall}
    (h : p.mainVerdict r subject = .ok (.failed shortfall)) (tried : List Fallback) :
    r.Reports (shortfall.failure tried) := by
  have houtcome := Provider.mainVerdict_eq h
  unfold mainOutcome at houtcome
  split at houtcome
  · split at houtcome
    · cases houtcome
    · cases houtcome
      exact .null tried
  · split at houtcome
    · next q hfind =>
      cases houtcome
      exact .rule (List.mem_append_left _ (List.mem_of_find?_eq_some hfind)) tried
    · split at houtcome
      · cases houtcome
      · split at houtcome
        · cases houtcome
          exact .nonEmpty tried
        · unfold Provider.patternOutcome at houtcome
          split at houtcome
          · next q hfind =>
            cases houtcome
            exact .rule (List.mem_append_right _ (List.mem_of_find?_eq_some hfind)) tried
          · cases houtcome

/-- Every failure that a walk adds is one that some ruleset inside reports. -/
theorem visit_reports (p : Provider) (mode : RecordMode) {K : FailureKind → Prop} {r : Ruleset}
    (hr : r.Everywhere fun q => ∀ kind, q.Reports kind → K kind) (subject : Value)
    (place : Location) :
    Walk.InStep (Effect.AddsOnly fun f => K f.kind)
      (r.visit p mode subject place) (r.visit p mode subject place) := by
  induction hr generalizing subject place with
  | @node r hreports _ ih =>
    have hR := Effect.AddsOnly.stepRelation (fun f => K f.kind) mode
    rw [r.visit_eq]
    by_cases hdeep : maxDepth < place.depth
    · rw [visitNode_of_deep hdeep]
      exact .aborted (by simp [Effect.AddsOnly, Effect.aborted])
    have hfailed {kind : FailureKind} (h : r.Reports kind) :
        Effect.AddsOnly (fun f => K f.kind) (.failed mode ⟨place, kind, Preview.of subject⟩)
          (.failed mode ⟨place, kind, Preview.of subject⟩) :=
      .of_failed (hreports kind h) _
    refine hR.inStep_visitNode hdeep hdeep
      (.of_eq rfl (fun _ _ => by simp [Effect.AddsOnly, Effect.aborted])
        fun _ h => hfailed (reports_of_mainVerdict h _)) rfl rfl
      (rel_map fun a ha => hR.leadInStep (ih a (mem_parts_of_alternative ha) subject place) subject)
      fun told _ => hR.inStep_visitChildren (hfailed .notLoopable) rfl (rel_map ?_) (rel_map ?_)
    · intro t ht kind _
      refine hR.inStep_visitTable (fun _ h => hfailed (.table ht h)) rfl rfl fun child _ => ?_
      exact rel_map fun q hq => ih q (mem_parts_of_element ht (Association.mem_of_lookup hq)) _ _
    · intro l hl kind _
      exact hR.inStep_visitItems (fun _ h => hfailed (.items hl h)) rfl
        (fun child _ => ih l.itemRules (mem_parts_of_items hl) _ _) _ _

end Ruleset

/-! ## Pieces of a line -/

/-- Arguments are shown as excerpts. -/
theorem Arguments.printable_text (arguments : Arguments) : Printable arguments.text := by
  cases arguments with
  | flag => decide
  | list values =>
    have hshown : Printable (", ".intercalate
        ((values.take shownArguments).map fun v => excerpt v.text)) := by
      refine printable_intercalate (by decide) fun s hs => ?_
      obtain ⟨v, _, rfl⟩ := List.mem_map.mp hs
      exact printable_excerpt v.text
    have hmore : Printable (if shownArguments < values.length then
        s!", … {values.length - shownArguments} more" else "") := by
      split
      · exact .append (.append (by decide) (printable_toString _)) (by decide)
      · decide
    exact .append (.append (.append (by decide) hshown) hmore) (by decide)

/-- A rule is shown with its names and arguments. -/
theorem Rule.printable_text {q : Rule} (hname : Printable q.name)
    (hformer : ∀ name ∈ q.formerNames, Printable name) : Printable q.text := by
  have hcall : Printable (q.name ++ q.arguments.text) := hname.append q.arguments.printable_text
  unfold text labelText
  split
  · exact hcall
  · have hchain : Printable (" <- ".intercalate q.formerNames) :=
      printable_intercalate (by decide) hformer
    exact .append (.append (hcall.append (by decide)) hchain) (by decide)

/-- What did not rescue a subject is shown by fixed names. -/
theorem printable_triedText (tried : List Fallback) : Printable (triedText tried) := by
  unfold triedText
  split
  · decide
  · have hnames : ∀ s ∈ tried.map Fallback.name, Printable s := by
      intro s hs
      obtain ⟨fallback, _, rfl⟩ := List.mem_map.mp hs
      cases fallback <;> decide
    exact .append (.append (by decide) (printable_intercalate (by decide) hnames)) (by decide)

/-- What a ruleset reports is shown with the texts of its rules. -/
theorem Ruleset.Reports.printable_text {r : Ruleset} {kind : FailureKind} (h : r.Reports kind)
    (hrules : ∀ q ∈ r.rules, Printable q.text) : Printable kind.text := by
  have hkey (key : String) : Printable (ticked (excerpt key)) :=
    printable_ticked (printable_excerpt key)
  cases h with
  | rule declared tried =>
    exact .append ((hrules _ declared).append (by decide)) (printable_triedText tried)
  | nonEmpty tried => exact .append (by decide) (printable_triedText tried)
  | null tried => exact .append (by decide) (printable_triedText tried)
  | notLoopable => decide
  | @table t _ _ h =>
    cases h with
    | undeclaredKey key =>
      have hpolicy : Printable t.membership.name := by
        cases t.membership <;> simp only [Membership.name] <;> decide
      exact .append (.append (by decide) (hkey key))
        (.append (.append (by decide) hpolicy) (by decide))
    | missingKey key => exact .append (.append (by decide) (hkey key)) (by decide)
  | items _ h =>
    cases h with
    | tooMany most => exact .append (.append (by decide) (printable_toString most)) (by decide)
    | tooFew least seen =>
      have hseen : Printable s!"{seen} item(s), at least " :=
        .append (printable_toString seen) (by decide)
      exact .append (hseen.append (printable_toString least)) (by decide)

/-- A preview is shown with its type, a number and its rendition. -/
theorem Preview.printable_text {preview : Preview} (htype : Printable preview.type)
    (hrendition : ∀ text, preview.rendition = some text → Printable text) :
    Printable preview.text := by
  unfold text
  refine .append (htype.append ?_) ?_
  · split
    · exact .append (.append (by decide) (printable_toString _)) (by decide)
    · decide
  · split
    · next rendition h => exact .append (by decide) (hrendition rendition h)
    · decide

/-- No more of a subject is shown than numbers, fixed names and an excerpt. -/
theorem Preview.printable_text_of (subject : Value) : Printable (Preview.of subject).text := by
  cases subject with
  | null => decide
  | bool b => cases b <;> decide
  | number n =>
    cases n with
    | int i =>
      refine printable_text (by decide : Printable "integer") fun text h => ?_
      obtain rfl := Option.some.inj h
      exact printable_ofList.mpr (allPrintable_integerText i)
    | float x =>
      refine printable_text (by decide : Printable "float") fun text h => ?_
      obtain rfl := Option.some.inj h
      exact printable_ofList.mpr (allPrintable_excerptChars _)
  | string s =>
    refine printable_text (by decide : Printable "string") fun text h => ?_
    obtain rfl := Option.some.inj h
    exact .append (.append (by decide) (printable_excerpt s)) (by decide)
  | array items => exact printable_text (by decide : Printable "list") (by simp [Preview.of])
  | object members => exact printable_text (by decide : Printable "map") (by simp [Preview.of])

/-- Steps into a subject are spelt with numbers and excerpts of keys. -/
theorem printable_stepsText (steps : List ChildStep) : Printable (stepsText steps) := by
  induction steps with
  | nil => decide
  | cons step steps ih =>
    refine .append ?_ ih
    cases step with
    | item index => exact .append (.append (by decide) (printable_toString index)) (by decide)
    | member key => exact .append (by decide) (printable_excerpt key)

/-! ## Lines -/

/-- A failure is shown by a terminal as it is if its key path and what it says are. -/
theorem Failure.printable_text {f : Failure} (hpath : Printable f.place.keyPath)
    (hkind : Printable f.kind.text) (hsubject : Printable f.subject.text) : Printable f.text := by
  have hplace : Printable s!"{f.place.depth} {f.place.keyPath}: " :=
    .append (.append (.append (printable_toString _) (by decide)) hpath) (by decide)
  exact .append (.append (hplace.append hkind) (by decide)) hsubject

namespace Ruleset

variable {p : Provider} {r : Ruleset} {description : Value} {place : Location} {keyPath : String}

/-- With rules whose names a terminal shows as they are, so are the failures of a challenge. -/
theorem printable_of_namedBy (hp : p.TellsKinds) (hnames : ∀ {name}, p.Knows name → Printable name)
    (hr : r.Everywhere (NamedBy p)) (hpath : Printable keyPath) (mode : RecordMode)
    (subject : Value) : ∀ f ∈ (r.challenge p mode subject keyPath).record, Printable f.text := by
  intro f hf
  have hreports : r.Everywhere fun q => ∀ kind, q.Reports kind → Printable kind.text :=
    hr.imp fun q hq kind h => h.printable_text fun rule hrule =>
      Rule.printable_text (hnames (hq rule hrule).name)
        fun name hname => hnames ((hq rule hrule).formerNames name hname)
  -- what is said comes from the rules, and where and of what from the subject: two facts on one walk
  obtain ⟨e, _, he, _, hkinds⟩ := visit_reports p mode hreports subject ⟨0, keyPath⟩
  obtain ⟨e', _, he', _, hplaces⟩ := r.visit_pointsInto hp mode subject ⟨0, keyPath⟩
  obtain rfl := he.unique he'
  rw [challenge_of_hasEffect he] at hf
  obtain ⟨⟨steps, v, _, hplace, hsubject⟩, _⟩ := hplaces f hf
  refine Failure.printable_text ?_ (hkinds f hf) ?_
  · rw [hplace]
    exact hpath.append (printable_stepsText steps)
  · rw [hsubject]
    exact Preview.printable_text_of v

/-- No line of a record has a character that a terminal acts on, whatever the subject is and whatever the
description of the ruleset says, unless the key path at the top has one. -/
theorem printable_recordLines [PatternEngine]
    (hread : ofDescriptionAt .standard description place = .ok r)
    (hpath : Printable keyPath) (mode : RecordMode) (subject : Value) :
    ∀ line ∈ recordLines (r.challenge .standard mode subject keyPath).record, Printable line := by
  intro line hline
  obtain ⟨f, hf, rfl⟩ := List.mem_map.mp hline
  exact printable_of_namedBy Provider.standard_tellsKinds Provider.printable_of_standard_knows
    (namedBy_of_ofDescriptionWithin hread) hpath mode subject f hf

/-- A member whose key turns the direction of text, and whose value has to be a text that does so. -/
def turningMember : Value :=
  .object [("tableElements", .object [("rulesByElements", .object
    [("\u202e", .object [("enum", .array [.string "\u202e"])])])])]

/-- Key, argument and subject are shown with escapes. -/
theorem turningMember_lines :
    ∃ r, ofDescriptionAt .standard turningMember .root = .ok r ∧
      let subject := Value.object [("\u202e", .string "\x1b")]
      let lines := recordLines (r.challenge .standard .all subject "root").record
      lines = ["1 root.\\u\x7b202e\x7d: enum(\"\\u\x7b202e\x7d\") failed - "
        ++ "string(1) \"\\u\x7b1b\x7d\""] ∧
      ∀ line ∈ lines, Printable line := by
  have hpath : Printable "root" := by decide
  refine ⟨_, rfl, rfl, ?_⟩
  exact printable_recordLines (rfl : ofDescriptionAt .standard turningMember .root = _) hpath .all _

end Ruleset

end Rulebook
