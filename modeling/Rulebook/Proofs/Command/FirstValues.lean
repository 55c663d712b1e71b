import Rulebook.Proofs.Command.FileReports
import Rulebook.Proofs.Json.FirstValue

/-!
# What a check looks at

Without a pointer and a filter, a check is about the texts of its files: the whole content of a file, or
every line that is not blank. It does not look at all of a text, but at the value that the text begins with.
So a text that is no JSON text passes if it begins with a value that does. Every text is that of one value
exactly if nothing but blanks stands behind those values.
-/

namespace Rulebook.Command

open Json (Value)
open Json.Reader (Lookahead isBlank)

/-- The texts of a content: all of it, or its lines that are not blank. -/
def textsOf (byLine : Bool) (content : List UInt8) : Except Utf8.Fault (List (List UInt8)) :=
  if byLine then
    (fun cs => ((Text.lines cs).filter (!Text.isBlankLine ·)).map Utf8.encode) <$> Utf8.decode content
  else .ok [content]

namespace CheckSettings

variable [PatternEngine]

/-- A document passes. -/
def Accepts (s : CheckSettings) (r : Ruleset) (v : Value) : Prop := (s.alone r v).result = .ok true

/-- There are a ruleset and files to check, and every text of every file has a property. -/
def EveryText (s : CheckSettings) (d : Directory) (P : Ruleset → List UInt8 → Prop) : Prop :=
  ∃ r paths, rulesetAt d s.rules = .ok r ∧ inputPaths d s.input.inputs = .ok paths ∧
    ∀ path ∈ paths, ∃ content texts, d.read path = .ok content ∧
      textsOf s.input.byLine content = .ok texts ∧ ∀ text ∈ texts, P r text

end CheckSettings

variable {s : CheckSettings} {r : Ruleset} {d : Directory} {color : Bool}

/-- Lines give documents if those that are not blank begin with values. -/
theorem lineDocuments_eq_ok_iff {number : Nat} {lines : List (List Char)} {vs : List Value} :
    lineDocuments number lines = .ok vs ↔
      List.Forall₂ (fun text v => Value.ofBytes text = .ok v)
        ((lines.filter (!Text.isBlankLine ·)).map Utf8.encode) vs := by
  induction lines generalizing number vs with
  | nil => simp [lineDocuments, eq_comm]
  | cons line rest ih =>
    by_cases hblank : Text.isBlankLine line = true
    · simp [lineDocuments, hblank, ih]
    · have hrest := @ih (number + 1)
      simp only [lineDocuments, hblank, Bool.not_false, List.filter_cons_of_pos, List.map_cons,
        List.forall₂_cons_left_iff, ← hrest]
      cases Value.ofBytes (Utf8.encode line) with
      | error e => simp
      | ok v => cases lineDocuments (number + 1) rest <;> simp [bind, Except.bind, eq_comm]

/-- A content gives documents if its texts begin with values. -/
theorem contentDocuments_eq_ok_iff {byLine : Bool} {content : List UInt8} {vs : List Value} :
    contentDocuments byLine content = .ok vs ↔
      ∃ texts, textsOf byLine content = .ok texts ∧
        List.Forall₂ (fun text v => Value.ofBytes text = .ok v) texts vs := by
  cases byLine with
  | true =>
    simp only [contentDocuments, textsOf, if_true]
    cases Utf8.decode content with
    | error fault => simp
    | ok cs => simp [lineDocuments_eq_ok_iff]
  | false =>
    simp only [contentDocuments, textsOf, Bool.false_eq_true, if_false, Except.ok.injEq,
      exists_eq_left', List.forall₂_cons_left_iff]
    cases Value.ofBytes content with
    | error e => simp
    | ok v => simp [eq_comm]

/-- There is a partner with a property for every item. -/
theorem exists_forall₂_iff {α β : Type} {R : α → β → Prop} {P : β → Prop} {xs : List α} :
    (∃ ys, List.Forall₂ R xs ys ∧ ∀ y ∈ ys, P y) ↔ ∀ x ∈ xs, ∃ y, R x y ∧ P y := by
  induction xs with
  | nil => simp
  | cons x xs ih =>
    rw [List.forall_mem_cons, ← ih]
    constructor
    · rintro ⟨ys, hys, hP⟩
      obtain ⟨y, rest, hy, hrest, rfl⟩ := List.forall₂_cons_left_iff.mp hys
      obtain ⟨hPy, hPrest⟩ := List.forall_mem_cons.mp hP
      exact ⟨⟨y, hy, hPy⟩, rest, hrest, hPrest⟩
    · rintro ⟨⟨y, hy, hPy⟩, rest, hrest, hPrest⟩
      exact ⟨y :: rest, .cons hy hrest, List.forall_mem_cons.mpr ⟨hPy, hPrest⟩⟩

section Engines

variable [PatternEngine]

/-- What follows from a property of every text has every text. -/
theorem CheckSettings.EveryText.mono {P Q : Ruleset → List UInt8 → Prop} (h : s.EveryText d P)
    (hPQ : ∀ r text, P r text → Q r text) : s.EveryText d Q := by
  obtain ⟨r, paths, hr, hpaths, htexts⟩ := h
  refine ⟨r, paths, hr, hpaths, fun path hpath => ?_⟩
  obtain ⟨content, texts, hcontent, hsplit, hP⟩ := htexts path hpath
  exact ⟨content, texts, hcontent, hsplit, fun text htext => hPQ r text (hP text htext)⟩

/-- The ruleset, the files and their texts are the same for every property. -/
theorem CheckSettings.EveryText.and {P Q : Ruleset → List UInt8 → Prop} (hP : s.EveryText d P)
    (hQ : s.EveryText d Q) : s.EveryText d fun r text => P r text ∧ Q r text := by
  obtain ⟨r, paths, hr, hpaths, hP⟩ := hP
  obtain ⟨r', paths', hr', hpaths', hQ⟩ := hQ
  obtain rfl := Except.ok.inj (hr.symm.trans hr')
  obtain rfl := Except.ok.inj (hpaths.symm.trans hpaths')
  refine ⟨r, paths, hr, hpaths, fun path hpath => ?_⟩
  obtain ⟨content, texts, hcontent, htexts, hP⟩ := hP path hpath
  obtain ⟨content', texts', hcontent', htexts', hQ⟩ := hQ path hpath
  obtain rfl := Except.ok.inj (hcontent.symm.trans hcontent')
  obtain rfl := Except.ok.inj (htexts.symm.trans htexts')
  exact ⟨content, texts, hcontent, htexts, fun text htext => ⟨hP text htext, hQ text htext⟩⟩

variable [FilterEngine]

/-- A file whose documents are its texts passes if every text begins with a value that does. -/
theorem passes_ok_iff (hpointer : s.input.pointer = none) (hfilter : s.input.filter = none)
    {content : List UInt8} :
    s.Passes r (.ok content) ↔ ∃ texts, textsOf s.input.byLine content = .ok texts ∧
      ∀ text ∈ texts, ∃ v after, Value.Begins text v after ∧ s.Accepts r v := by
  have hdocuments : s.input.documentsIn (.ok content) = contentDocuments s.input.byLine content := by
    simp only [InputSettings.documentsIn, InputSettings.documentsOf, hpointer, hfilter]
    cases contentDocuments s.input.byLine content <;> rfl
  have hbegins (texts : List (List UInt8)) :
      (∃ vs, List.Forall₂ (fun text v => Value.ofBytes text = .ok v) texts vs ∧
        ∀ v ∈ vs, s.Accepts r v) ↔
      ∀ text ∈ texts, ∃ v after, Value.Begins text v after ∧ s.Accepts r v := by
    simp only [exists_forall₂_iff, Value.ofBytes_eq_ok_iff, exists_and_right]
  simp only [CheckSettings.Passes, hdocuments, contentDocuments_eq_ok_iff, ← hbegins]
  constructor
  · rintro ⟨vs, ⟨texts, htexts, hvs⟩, haccepts⟩
    exact ⟨texts, htexts, vs, hvs, haccepts⟩
  · rintro ⟨texts, htexts, vs, hvs, haccepts⟩
    exact ⟨vs, ⟨texts, htexts, hvs⟩, haccepts⟩

/-- A file that cannot be read does not pass. -/
theorem not_passes_error {e : FileError} : ¬s.Passes r (.error e) := by
  rintro ⟨vs, hvs, -⟩
  cases hvs

/-- All is well with a check if there are a ruleset and files, and all files pass. -/
theorem check_result_iff :
    ((Task.check s).run color d).result = .ok true ↔
      ∃ r paths, rulesetAt d s.rules = .ok r ∧ inputPaths d s.input.inputs = .ok paths ∧
        ∀ path ∈ paths, s.Passes r (d.read path) := by
  simp only [Task.run, runCheck]
  cases rulesetAt d s.rules with
  | error e => simp [bind, Except.bind, Response.ofReport]
  | ok r =>
    cases inputPaths d s.input.inputs with
    | error e => simp [bind, Except.bind, Response.ofReport]
    | ok paths =>
      simp [bind, Except.bind, Response.ofReport, checkFiles, judgeFile_eq,
        CheckSettings.filePassed_judgements]

/-- All is well with a check of texts if every text begins with a value that passes. -/
theorem check_result_iff_begins (hpointer : s.input.pointer = none) (hfilter : s.input.filter = none) :
    ((Task.check s).run color d).result = .ok true ↔
      s.EveryText d fun r text => ∃ v after, Value.Begins text v after ∧ s.Accepts r v := by
  have hfile (r : Ruleset) (path : String) : s.Passes r (d.read path) ↔
      ∃ content texts, d.read path = .ok content ∧ textsOf s.input.byLine content = .ok texts ∧
        ∀ text ∈ texts, ∃ v after, Value.Begins text v after ∧ s.Accepts r v := by
    cases d.read path with
    | error e => simp [not_passes_error]
    | ok content => simp [passes_ok_iff hpointer hfilter]
  simp only [check_result_iff, hfile, CheckSettings.EveryText]

/-- All is well with a check of texts exactly if every text begins with a value that passes. Then the texts
are JSON texts of values that pass exactly if nothing but blanks stands behind the values that they begin
with. Behind the value of a text, anything may stand that does not continue a number. -/
theorem check_passes_iff_texts_begin (hpointer : s.input.pointer = none)
    (hfilter : s.input.filter = none) (color : Bool) :
    (((Task.check s).run color d).result = .ok true ↔
      s.EveryText d fun r text => ∃ v after, Value.Begins text v after ∧ s.Accepts r v) ∧
    (((Task.check s).run color d).result = .ok true →
      ((s.EveryText d fun r text => ∃ v, v.IsTextOf text ∧ s.Accepts r v) ↔
        s.EveryText d fun _ text => ∃ v after, Value.Begins text v after ∧ ∀ b ∈ after, isBlank b)) ∧
    ∀ text v after, Value.Begins text v after → ∃ own, text = own ++ after ∧ v.IsTextOf own ∧
      ∀ other, Lookahead.number.Alike after other → Value.Begins (own ++ other) v other := by
  refine ⟨check_result_iff_begins hpointer hfilter, fun hwell => ⟨fun h => ?_, fun h => ?_⟩,
    fun _ _ _ h => h.split⟩
  · exact h.mono fun r text ⟨v, ⟨after, hbegins, hblank⟩, _⟩ => ⟨v, after, hbegins, hblank⟩
  · have hbegins := (check_result_iff_begins hpointer hfilter).mp hwell
    refine (hbegins.and h).mono fun r text ⟨⟨v, after, hbegins, haccepts⟩, hblank⟩ => ?_
    exact ⟨v, ⟨after, hbegins, hbegins.exists_isTextOf_iff.mp hblank⟩, haccepts⟩

end Engines

/-- The description of integers, and a file that only begins with one. -/
def spoiledFiles : Directory where
  files := [(["integers.json"], Utf8.encode "\"integer\"".toList),
    (["spoiled.json"], Utf8.encode "1 x".toList)]

/-- A check that the file is an integer. -/
def spoiledCheck : CheckSettings where
  rules := "integers.json"
  input := ⟨false, none, none, ["spoiled.json"]⟩
  mode := .first
  rootName := "."

/-- The file passes, since its text begins with an integer. -/
theorem spoiledCheck_texts_begin :
    (spoiledCheck.input.pointer = none ∧ spoiledCheck.input.filter = none) ∧
    ((Task.check spoiledCheck).run false spoiledFiles).result = .ok true ∧
    (spoiledCheck.EveryText spoiledFiles fun r text =>
      ∃ v after, Value.Begins text v after ∧ spoiledCheck.Accepts r v) := by
  have hwell : ((Task.check spoiledCheck).run false spoiledFiles).result = .ok true := by rfl
  obtain ⟨hbegins, -⟩ := check_passes_iff_texts_begin (s := spoiledCheck) (d := spoiledFiles) rfl rfl false
  exact ⟨⟨rfl, rfl⟩, hwell, hbegins.mp hwell⟩

/-- A file may pass and be no JSON text. -/
theorem spoiledCheck_passes : ¬∀ (s : CheckSettings) (d : Directory) (color : Bool),
    s.input.pointer = none → s.input.filter = none →
    ((Task.check s).run color d).result = .ok true →
    s.EveryText d fun r text => ∃ v, v.IsTextOf text ∧ s.Accepts r v := by
  intro h
  obtain ⟨r, paths, -, hpaths, htexts⟩ := h spoiledCheck spoiledFiles false rfl rfl (by rfl)
  obtain rfl := Except.ok.inj hpaths
  obtain ⟨content, texts, hcontent, hsplit, hwhole⟩ := htexts "spoiled.json" (by simp)
  obtain rfl := Except.ok.inj hcontent
  obtain rfl := Except.ok.inj hsplit
  obtain ⟨v, ⟨after, hbegins, hblank⟩, -⟩ := hwhole _ (List.mem_singleton_self _)
  have hspoiled : Value.Begins (Utf8.encode "1 x".toList) (.number (.int 1)) [32, 120] :=
    ⟨_, rfl⟩
  obtain ⟨-, rfl⟩ := hspoiled.unique hbegins
  exact absurd (hblank 120 (by simp)) (by decide)

end Rulebook.Command
