import Mathlib.Data.List.Forall2
import Rulebook.Command.Run
import Rulebook.Filter.Run
import Rulebook.Proofs.Challenge.Builds
import Rulebook.Proofs.Challenge.Histories

/-!
# Reports of files

A check judges every file on its own and reports all of them. The report has one block for every file, in
the order of the inputs, and a block tells nothing but what is in its file: one line that says why the file
is not judged, or for every document its verdict and its record, as a new challenger gives them. All is well
if every document of every file passes, and every file gives documents that can be judged.

Patterns and filters are left to engines of which nothing is known but that they are functions: the same
pattern and the same filter on the same document give the same, and both come to an end.
-/

namespace Rulebook.Command

open Json (Value)

/-- The documents of a file with a content. -/
def InputSettings.documentsIn [FilterEngine] (s : InputSettings) :
    Except FileError (List UInt8) → Except DocumentFault (List Value)
  | .error e => .error (.unreadable e)
  | .ok content => s.documentsOf content

namespace CheckSettings

/-- The same settings for other inputs. -/
def withInputs (s : CheckSettings) (inputs : List String) : CheckSettings :=
  { s with input := { s.input with inputs := inputs } }

/-- The line that says why a file is not judged. -/
def errorLine (color : Bool) (path report : String) : String :=
  Style.badStrong.paint color "ERROR" ++ s!" {path}: {report}"

/-- The verdict on a document and its record. -/
def documentLines (color : Bool) (label : String) (passed : Bool) (record : List Failure) : Lines :=
  ((if passed then Style.goodStrong.paint color "PASS" else Style.badStrong.paint color "FAIL")
      ++ " " ++ label)
    :: record.map fun f => "    " ++ f.text

/-- What comes of a document on its own. -/
def alone [PatternEngine] (s : CheckSettings) (r : Ruleset) (v : Value) : Challenged :=
  r.challenge .standard s.mode v s.rootName

variable [PatternEngine] [FilterEngine]

/-- A file gives documents, and all of them pass. -/
def Passes (s : CheckSettings) (r : Ruleset) (content : Except FileError (List UInt8)) : Prop :=
  ∃ vs, s.input.documentsIn content = .ok vs ∧ ∀ v ∈ vs, (s.alone r v).result = .ok true

/-- The block of a file: an error alone if it gives no documents or one of them comes to no verdict, and
otherwise the lines of every document. Documents have numbers if there is more than one. -/
inductive Reports (s : CheckSettings) (r : Ruleset) (color : Bool) (path : String) :
    Except FileError (List UInt8) → Lines → Prop
  | notLoaded {content : Except FileError (List UInt8)} {fault : DocumentFault}
      (loads : s.input.documentsIn content = .error fault) :
      Reports s r color path content [errorLine color path (fault.message path)]
  | notJudged {content : Except FileError (List UInt8)} {before after : List Value} {v : Value}
      {e : ChallengeError} (loads : s.input.documentsIn content = .ok (before ++ v :: after))
      (judged : ∀ w ∈ before, ∃ passed, (s.alone r w).result = .ok passed)
      (stops : (s.alone r v).result = .error e) :
      Reports s r color path content
        [errorLine color path s!"{path} document {before.length}: {e.message}"]
  | judged {content : Except FileError (List UInt8)} {vs : List Value} {verdicts : List Bool}
      (loads : s.input.documentsIn content = .ok vs)
      (judged : List.Forall₂ (fun v passed => (s.alone r v).result = .ok passed) vs verdicts) :
      Reports s r color path content
        ((vs.zip verdicts).zipIdx.flatMap fun ((v, passed), number) =>
          documentLines color (if 1 < vs.length then s!"{path}#{number}" else path) passed
            (s.alone r v).record)

/-- What comes of a file with a content. -/
def judgements (s : CheckSettings) (r : Ruleset) (path : String)
    (content : Except FileError (List UInt8)) : Except FileFault (List Judgement) :=
  match s.input.documentsIn content with
  | .error fault => .error (.documents fault)
  | .ok vs =>
    judgeFrom s r path (decide (1 < vs.length)) ((Challenger.new .standard).withMode s.mode) 0 vs

/-- The block of a file with a content. -/
def block (s : CheckSettings) (r : Ruleset) (color : Bool) (path : String)
    (content : Except FileError (List UInt8)) : Lines :=
  fileLines color path (s.judgements r path content)

end CheckSettings

variable {s : CheckSettings} {r : Ruleset} {color : Bool} {path : String}

/-! ## Lines and paths -/

/-- The lines of a document that is one of so many. -/
theorem Judgement.lines_eq {count number : Nat} {passed : Bool} {record : List Failure} :
    Judgement.lines color
        ⟨documentLabel path (decide (1 < count)) number, passed, recordLines record⟩ =
      CheckSettings.documentLines color (if 1 < count then s!"{path}#{number}" else path) passed
        record := by
  simp only [lines, CheckSettings.documentLines, documentLabel, recordLines, List.map_map,
    decide_eq_true_eq]
  rfl

/-- Inputs that are no globs are the paths of the files. -/
theorem inputPaths_of_literal {d : Directory} {inputs : List String}
    (h : ∀ input ∈ inputs, Glob.isGlob input = false) : inputPaths d inputs = .ok inputs := by
  induction inputs with
  | nil => rfl
  | cons input rest ih =>
    obtain ⟨hinput, hrest⟩ := List.forall_mem_cons.mp h
    simp [inputPaths, hinput, ih hrest]
    rfl

/-- The text of blocks is the texts of the blocks, one after the other. -/
theorem linesText_flatMap {α : Type} (block : α → Lines) (xs : List α) :
    linesText (xs.flatMap block) = String.join (xs.map fun x => linesText (block x)) := by
  induction xs with
  | nil => rfl
  | cons x rest ih =>
    rw [List.map_cons, String.join_cons, ← ih]
    simp [linesText]

/-! ## Judging documents -/

section Engines

variable [PatternEngine]

/-- The challenger of a file, with a record. -/
def CheckSettings.challenger (s : CheckSettings) (record : List Failure) : Challenger :=
  ⟨.standard, s.mode, record⟩

/-- A challenger that has met other documents gives a document what comes of it on its own. -/
theorem challenge_eq_alone (s : CheckSettings) (r : Ruleset) (record : List Failure) (v : Value) :
    (s.challenger record).challenge v r s.rootName =
      ((s.alone r v).result, s.challenger (s.alone r v).record) :=
  rfl

/-- Documents that come to verdicts are judged one after the other. -/
theorem judgeFrom_eq_ok {several : Bool} {record : List Failure} {number : Nat} {vs : List Value}
    {verdicts : List Bool}
    (h : List.Forall₂ (fun v passed => (s.alone r v).result = .ok passed) vs verdicts) :
    judgeFrom s r path several (s.challenger record) number vs =
      .ok (((vs.zip verdicts).zipIdx number).map fun ((v, passed), number) =>
        ⟨documentLabel path several number, passed, recordLines (s.alone r v).record⟩) := by
  induction h generalizing record number with
  | nil => rfl
  | cons hv _ ih =>
    simp only [judgeFrom, challenge_eq_alone, hv, ih]
    rfl

/-- Judging stops at the first document that comes to no verdict. -/
theorem judgeFrom_eq_error {several : Bool} {record : List Failure} {number : Nat}
    {before after : List Value} {v : Value} {e : ChallengeError}
    (hbefore : ∀ w ∈ before, ∃ passed, (s.alone r w).result = .ok passed)
    (hv : (s.alone r v).result = .error e) :
    judgeFrom s r path several (s.challenger record) number (before ++ v :: after) =
      .error (.challenge (number + before.length) e) := by
  induction before generalizing record number with
  | nil =>
    simp only [List.nil_append, judgeFrom, challenge_eq_alone, hv, List.length_nil, Nat.add_zero]
  | cons w before ih =>
    obtain ⟨⟨passed, hw⟩, hbefore⟩ := List.forall_mem_cons.mp hbefore
    simp only [List.cons_append, judgeFrom, challenge_eq_alone, hw, ih hbefore]
    rw [List.length_cons, Nat.add_right_comm, Nat.add_assoc]
    rfl

/-- Documents all come to verdicts, or there is a first one that does not. -/
theorem verdicts_or_first_error (s : CheckSettings) (r : Ruleset) (vs : List Value) :
    (∃ verdicts, List.Forall₂ (fun v passed => (s.alone r v).result = .ok passed) vs verdicts) ∨
    ∃ before v after e, vs = before ++ v :: after ∧
      (∀ w ∈ before, ∃ passed, (s.alone r w).result = .ok passed) ∧
      (s.alone r v).result = .error e := by
  induction vs with
  | nil => exact .inl ⟨[], .nil⟩
  | cons v rest ih =>
    cases hv : (s.alone r v).result with
    | error e => exact .inr ⟨[], v, rest, e, rfl, by simp, hv⟩
    | ok passed =>
      obtain ⟨verdicts, hrest⟩ | ⟨before, w, after, e, rfl, hbefore, hw⟩ := ih
      · exact .inl ⟨passed :: verdicts, .cons hv hrest⟩
      · exact .inr ⟨v :: before, w, after, e, rfl, List.forall_mem_cons.mpr ⟨⟨passed, hv⟩, hbefore⟩, hw⟩

/-- All is well with documents that come to verdicts exactly if every one of them passes. -/
theorem filePassed_of_verdicts {label : Nat → String} {number : Nat} {vs : List Value}
    {verdicts : List Bool}
    (h : List.Forall₂ (fun v passed => (s.alone r v).result = .ok passed) vs verdicts) :
    filePassed (.ok (((vs.zip verdicts).zipIdx number).map fun ((v, passed), number) =>
        ⟨label number, passed, recordLines (s.alone r v).record⟩)) = true ↔
      ∀ v ∈ vs, (s.alone r v).result = .ok true := by
  induction h generalizing number with
  | nil => simp [filePassed]
  | cons hv _ ih =>
    rw [List.forall_mem_cons, hv, Except.ok.injEq, ← @ih (number + 1)]
    simp only [filePassed, List.zip_cons_cons, List.zipIdx_cons, List.map_cons, List.all_cons,
      Bool.and_eq_true]

/-! ## Blocks -/

variable [FilterEngine]

/-- A block is what is reported of its file. -/
theorem CheckSettings.Reports.eq_block {content : Except FileError (List UInt8)} {lines : Lines}
    (h : s.Reports r color path content lines) : s.block r color path content = lines := by
  have hanew : (Challenger.new .standard).withMode s.mode = s.challenger [] := rfl
  cases h with
  | notLoaded loads =>
    simp only [block, judgements, loads]
    rfl
  | @notJudged before after v e loads judged stops =>
    simp only [block, judgements, loads, hanew, judgeFrom_eq_error judged stops, Nat.zero_add]
    rfl
  | @judged vs verdicts loads judged =>
    simp only [block, judgements, loads, hanew, judgeFrom_eq_ok judged, fileLines, List.flatMap_map]
    refine congrArg (List.flatMap · _) (funext fun ⟨⟨v, passed⟩, number⟩ => ?_)
    exact Judgement.lines_eq

/-- There is something to report of every file. -/
theorem CheckSettings.exists_reports (s : CheckSettings) (r : Ruleset) (color : Bool) (path : String)
    (content : Except FileError (List UInt8)) : ∃ lines, s.Reports r color path content lines := by
  cases loads : s.input.documentsIn content with
  | error fault => exact ⟨_, .notLoaded loads⟩
  | ok vs =>
    obtain ⟨verdicts, judged⟩ | ⟨before, v, after, e, rfl, judged, stops⟩ :=
      verdicts_or_first_error s r vs
    · exact ⟨_, .judged loads judged⟩
    · exact ⟨_, .notJudged loads judged stops⟩

/-- A block is all that there is to report of a file. -/
theorem CheckSettings.reports_iff {content : Except FileError (List UInt8)} {lines : Lines} :
    s.Reports r color path content lines ↔ lines = s.block r color path content := by
  refine ⟨fun h => h.eq_block.symm, ?_⟩
  rintro rfl
  obtain ⟨lines, h⟩ := s.exists_reports r color path content
  rwa [h.eq_block]

/-- What is reported of a file has nothing to do with the other inputs. -/
theorem CheckSettings.block_withInputs (s : CheckSettings) (r : Ruleset) (color : Bool)
    (inputs : List String) (path : String) (content : Except FileError (List UInt8)) :
    (s.withInputs inputs).block r color path content = s.block r color path content := by
  obtain ⟨lines, h⟩ := s.exists_reports r color path content
  have hinputs : (s.withInputs inputs).Reports r color path content lines := by
    cases h with
    | notLoaded loads => exact .notLoaded loads
    | notJudged loads judged stops => exact .notJudged loads judged stops
    | judged loads judged => exact .judged loads judged
  rw [hinputs.eq_block, h.eq_block]

/-- All is well with a file exactly if all of its documents pass. -/
theorem CheckSettings.filePassed_judgements {content : Except FileError (List UInt8)} :
    filePassed (s.judgements r path content) = true ↔ s.Passes r content := by
  have hanew : (Challenger.new .standard).withMode s.mode = s.challenger [] := rfl
  cases loads : s.input.documentsIn content with
  | error fault => simp [Passes, judgements, loads, filePassed]
  | ok vs =>
    simp only [Passes, judgements, loads, hanew, Except.ok.injEq, exists_eq_left']
    obtain ⟨verdicts, judged⟩ | ⟨before, v, after, e, rfl, judged, stops⟩ :=
      verdicts_or_first_error s r vs
    · rw [judgeFrom_eq_ok judged]
      exact filePassed_of_verdicts judged
    · rw [judgeFrom_eq_error judged stops]
      simp only [filePassed, Bool.false_eq_true, false_iff]
      intro h
      have hv := h v (by simp)
      rw [stops] at hv
      cases hv

/-! ## Checks -/

/-- What comes of a file depends on its content alone. -/
theorem judgeFile_eq (s : CheckSettings) (r : Ruleset) (d : Directory) (path : String) :
    judgeFile s r d path = s.judgements r path (d.read path) := by
  unfold judgeFile CheckSettings.judgements InputSettings.documents InputSettings.documentsIn
  cases d.read path <;> rfl

/-- A check of the files at given paths with a ruleset comes to an end, and it reports a block for every
file, in their order. All is well exactly if all of them pass. A block is what there is to report of the
content of its file, whatever the other files are. The documents get in every build what they get in an
optimized one, if no list of the ruleset allows the greatest number of items. -/
theorem check_reports_every_file {d : Directory} (hrules : rulesetAt d s.rules = .ok r)
    (hinputs : ∀ input ∈ s.input.inputs, Glob.isGlob input = false) (color : Bool) :
    ∃ isWell, (Task.check s).run color d =
        ⟨.ok isWell, String.join (s.input.inputs.map fun path =>
          linesText (s.block r color path (d.read path))), d⟩ ∧
      (isWell = true ↔ ∀ path ∈ s.input.inputs, s.Passes r (d.read path)) ∧
      (∀ path content lines, s.Reports r color path content lines ↔
        lines = s.block r color path content) ∧
      (∀ inputs path content,
        (s.withInputs inputs).block r color path content = s.block r color path content) ∧
      (r.Everywhere Ruleset.ListsFit → ∀ build v,
        r.challengeIn build .standard s.mode v s.rootName = s.alone r v) := by
  refine ⟨(checkFiles color s r d s.input.inputs).1, ?_, ?_, fun _ _ _ => CheckSettings.reports_iff,
    s.block_withInputs r color, fun hfit _ _ => Ruleset.challengeIn_eq (.inr hfit) _ _ _ _⟩
  · have hrun : runCheck color s d = .ok (checkFiles color s r d s.input.inputs) := by
      simp only [runCheck, hrules, inputPaths_of_literal hinputs]
      rfl
    have hlines : (checkFiles color s r d s.input.inputs).2 =
        s.input.inputs.flatMap fun path => s.block r color path (d.read path) := by
      simp only [checkFiles, judgeFile_eq, List.flatMap_map]
      rfl
    rw [Task.run, hrun, Response.ofReport, hlines, linesText_flatMap]
  · simp [checkFiles, judgeFile_eq, CheckSettings.filePassed_judgements]

end Engines

/-- Integers. -/
def integers : Ruleset where
  typeRules := [⟨"integer", .flag, .typeCheck, []⟩]
  patternRules := []
  optional := false
  nullable := false
  emptiness := none
  alternativeEnum := none
  alternativeRuleSet := none
  tableElements := none
  listItems := none

/-- The description of integers, and files with numbers in their lines. -/
def integerFiles : Directory where
  files := [(["integers.json"], Utf8.encode "\"integer\"".toList),
    (["many.json"], Utf8.encode "1\n\n\"x\"\n".toList),
    (["spoiled.json"], Utf8.encode "1\ntwo\n".toList),
    (["one.json"], Utf8.encode "7\n".toList)]

/-- A check that the lines of files are integers. -/
def integerCheck : CheckSettings where
  rules := "integers.json"
  input := ⟨true, none, none, ["many.json", "spoiled.json", "one.json", "missing.json"]⟩
  mode := .first
  rootName := "."

/-- Two of the files are judged. The others give no documents. -/
theorem integerCheck_reports_every_file :
    rulesetAt integerFiles integerCheck.rules = .ok integers ∧
    (∀ input ∈ integerCheck.input.inputs, Glob.isGlob input = false) ∧
    ∃ isWell, (Task.check integerCheck).run false integerFiles =
        ⟨.ok isWell, String.join (integerCheck.input.inputs.map fun path =>
          linesText (integerCheck.block integers false path (integerFiles.read path))), integerFiles⟩ ∧
      (isWell = true ↔
        ∀ path ∈ integerCheck.input.inputs, integerCheck.Passes integers (integerFiles.read path)) ∧
      (∀ path content lines, integerCheck.Reports integers false path content lines ↔
        lines = integerCheck.block integers false path content) ∧
      (∀ inputs path content, (integerCheck.withInputs inputs).block integers false path content =
        integerCheck.block integers false path content) ∧
      (integers.Everywhere Ruleset.ListsFit → ∀ build v,
        integers.challengeIn build .standard integerCheck.mode v integerCheck.rootName =
          integerCheck.alone integers v) := by
  have hrules : rulesetAt integerFiles integerCheck.rules = .ok integers := by rfl
  have hinputs : ∀ input ∈ integerCheck.input.inputs, Glob.isGlob input = false := by decide
  exact ⟨hrules, hinputs, check_reports_every_file hrules hinputs false⟩

example : (runCheck false integerCheck integerFiles).toOption = some (false,
    ["PASS many.json#0", "FAIL many.json#1", "    0 .: integer failed - string(1) \"x\"",
      "ERROR spoiled.json: spoiled.json line 2: at JSON path . → expected ident at line 1 column 2: "
        ++ "expected ident at line 1 column 2",
      "PASS one.json",
      "ERROR missing.json: failed to read missing.json: No such file or directory (os error 2)"]) := by
  decide +kernel

end Rulebook.Command
