import Rulebook.Filter.Run
import Rulebook.Proofs.Command.FirstValues
import Rulebook.Proofs.Description.ErrorPlaces

/-!
# Lines apart

Where the lines of a file are documents, each step is taken for all of them before the next one: all lines
are read, then a pointer is followed in all documents, then a filter is run on all of them. The documents
that come out are those of the lines, each taken for a file of its own. Faults do come in another order:
a line that is no JSON text is reported before anything that the later steps would find in earlier lines.

Filters are run by an engine of which nothing is known but that the same filter gives the same for the same
document.
-/

namespace Rulebook.Command

open Json (Value ReadError)

/-! ## Stages -/

/-- A stage takes items apart: it gives something for a list if it does for the first item alone and for
the others, and then it gives the one and the other. -/
structure ItemByItem {α β ε : Type} (stage : List α → Except ε (List β)) : Prop where
  nil : stage [] = .ok []
  cons : ∀ x rest zs, stage (x :: rest) = .ok zs ↔
    ∃ first others, stage [x] = .ok first ∧ stage rest = .ok others ∧ zs = first ++ others

namespace ItemByItem

variable {α β γ ε : Type} {stage : List α → Except ε (List β)}

/-- A stage that looks at one item after the other takes them apart. -/
theorem of_step (step : α → Except ε (List β)) (hnil : stage [] = .ok [])
    (hcons : ∀ x rest, stage (x :: rest) =
      (do let first ← step x; let others ← stage rest; .ok (first ++ others))) :
    ItemByItem stage := by
  have hone (x : α) : stage [x] = step x := by
    rw [hcons, hnil]
    cases step x with
    | error e => rfl
    | ok first => exact congrArg Except.ok (List.append_nil first)
  refine ⟨hnil, fun x rest zs => ?_⟩
  simp only [hone, hcons, bind_ok_iff, Except.ok.injEq]
  constructor
  · rintro ⟨first, hfirst, others, hothers, rfl⟩
    exact ⟨first, others, hfirst, hothers, rfl⟩
  · rintro ⟨first, others, hfirst, hothers, rfl⟩
    exact ⟨first, hfirst, others, hothers, rfl⟩

/-- To leave everything as it is takes items apart. -/
theorem ok : ItemByItem (Except.ok : List α → Except ε (List α)) :=
  ⟨rfl, fun x rest zs => by simp [eq_comm]⟩

/-- What a stage gives for two lists is what it gives for the one and for the other. -/
theorem append (h : ItemByItem stage) {xs ys : List α} {zs : List β} :
    stage (xs ++ ys) = .ok zs ↔
      ∃ front back, stage xs = .ok front ∧ stage ys = .ok back ∧ zs = front ++ back := by
  induction xs generalizing zs with
  | nil => simp [h.nil]
  | cons x xs ih =>
    rw [List.cons_append, h.cons]
    constructor
    · rintro ⟨first, others, hfirst, hothers, rfl⟩
      obtain ⟨front, back, hfront, hback, rfl⟩ := ih.mp hothers
      refine ⟨first ++ front, back, (h.cons _ _ _).mpr ⟨first, front, hfirst, hfront, rfl⟩, hback, ?_⟩
      exact (List.append_assoc _ _ _).symm
    · rintro ⟨_, back, hall, hback, rfl⟩
      obtain ⟨first, front, hfirst, hfront, rfl⟩ := (h.cons _ _ _).mp hall
      refine ⟨first, front ++ back, hfirst, ih.mpr ⟨front, back, hfront, hback, rfl⟩, ?_⟩
      exact List.append_assoc _ _ _

/-- Two stages, the second behind the first, take items apart if both do. -/
theorem comp (h : ItemByItem stage) {later : List β → Except ε (List γ)} (hlater : ItemByItem later) :
    ItemByItem fun xs => stage xs >>= later := by
  refine ⟨?_, fun x rest zs => ?_⟩
  · rw [h.nil]
    exact hlater.nil
  · simp only [bind_ok_iff]
    constructor
    · rintro ⟨ys, hys, hzs⟩
      obtain ⟨first, others, hfirst, hothers, rfl⟩ := (h.cons _ _ _).mp hys
      obtain ⟨front, back, hfront, hback, rfl⟩ := hlater.append.mp hzs
      exact ⟨front, back, ⟨first, hfirst, hfront⟩, ⟨others, hothers, hback⟩, rfl⟩
    · rintro ⟨front, back, ⟨first, hfirst, hfront⟩, ⟨others, hothers, hback⟩, rfl⟩
      exact ⟨first ++ others, (h.cons _ _ _).mpr ⟨first, others, hfirst, hothers, rfl⟩,
        hlater.append.mpr ⟨front, back, hfront, hback, rfl⟩⟩

end ItemByItem

/-! ## Documents -/

/-- A pointer is followed in one document after the other. -/
theorem itemByItem_pointedAt (pointer : String) : ItemByItem (pointedAt pointer) := by
  refine .of_step (fun v => (v.at? pointer).elim (.error (.nothingAt pointer)) fun part => .ok [part])
    rfl fun v rest => ?_
  rw [pointedAt]
  cases v.at? pointer <;> rfl

/-- The fault of a document that has been read. -/
inductive DocumentFault.OfDocument : DocumentFault → Prop
  | nothingAt (pointer : String) : OfDocument (.nothingAt pointer)
  | badFilter (report : String) : OfDocument (.badFilter report)

section Lines

variable [FilterEngine]

namespace InputSettings

/-- What the pointer of some settings names in documents. -/
def pointed (s : InputSettings) (vs : List Value) : Except DocumentFault (List Value) :=
  match s.pointer with
  | none => .ok vs
  | some pointer => pointedAt pointer vs

/-- What the filter of some settings gives for documents. -/
def sifted (s : InputSettings) (vs : List Value) : Except DocumentFault (List Value) :=
  match s.filter with
  | none => .ok vs
  | some filter => filtered filter vs

/-- What the pointer and the filter of some settings make of documents. -/
def refined (s : InputSettings) (vs : List Value) : Except DocumentFault (List Value) :=
  s.pointed vs >>= s.sifted

/-- The same settings for files whose lines are documents. -/
def forLines (s : InputSettings) : InputSettings := { s with byLine := true }

/-- The same settings for files that are one document each. -/
def forWhole (s : InputSettings) : InputSettings := { s with byLine := false }

/-- What comes of a line that is a file of its own, which is one document. -/
def lineAlone (s : InputSettings) (line : List Char) : Except DocumentFault (List Value) :=
  s.forWhole.documentsIn (.ok (Utf8.encode line))

/-- A line is to be read, but on its own it is no JSON text. -/
def Spoilt (s : InputSettings) (line : List Char) (e : ReadError) : Prop :=
  Text.isBlankLine line = false ∧ s.lineAlone line = .error (.badText e)

/-- The first of some lines that is spoilt has so many lines in front of it. -/
def FirstSpoilt (s : InputSettings) (lines : List (List Char)) (count : Nat) (e : ReadError) : Prop :=
  ∃ before line after, lines = before ++ line :: after ∧ count = before.length ∧
    s.Spoilt line e ∧ ∀ earlier ∈ before, ∀ e, ¬s.Spoilt earlier e

end InputSettings

variable {s : InputSettings} {line : List Char} {lines : List (List Char)} {vs : List Value}
  {e : ReadError} {fault : DocumentFault} {number : Nat}

/-- The documents of a file are those of its content. -/
theorem documents_eq_documentsIn (s : InputSettings) (d : Directory) (path : String) :
    s.documents d path = s.documentsIn (d.read path) := by
  unfold InputSettings.documents InputSettings.documentsIn
  cases d.read path <;> rfl

/-- The documents of a content are read and then taken through the later stages. -/
theorem documentsIn_ok (s : InputSettings) (content : List UInt8) :
    s.documentsIn (.ok content) = contentDocuments s.byLine content >>= s.refined := by
  obtain ⟨byLine, pointer, filter, inputs⟩ := s
  refine congrArg (contentDocuments byLine content >>= ·) (funext fun vs => ?_)
  cases pointer <;> cases filter <;> rfl

/-! ## The later stages -/

/-- A filter is run on one document after the other. -/
theorem itemByItem_filtered (filter : String) : ItemByItem (filtered filter) := by
  refine .of_step (fun v => (FilterEngine.apply filter v).mapError .badFilter) rfl fun v rest => ?_
  rw [filtered]
  cases FilterEngine.apply filter v <;> rfl

/-- The pointer and the filter together take documents apart. -/
theorem itemByItem_refined (s : InputSettings) : ItemByItem s.refined := by
  have hpointed : ItemByItem s.pointed := by
    unfold InputSettings.pointed
    cases s.pointer with
    | none => exact .ok
    | some pointer => exact itemByItem_pointedAt pointer
  have hsifted : ItemByItem s.sifted := by
    unfold InputSettings.sifted
    cases s.filter with
    | none => exact .ok
    | some filter => exact itemByItem_filtered filter
  exact hpointed.comp hsifted

/-- The later stages fail with faults of documents that have been read. -/
theorem refined_failsOnly (s : InputSettings) (vs : List Value) :
    FailsOnly DocumentFault.OfDocument (s.refined vs) := by
  have hpointedAt (pointer : String) (vs : List Value) :
      FailsOnly DocumentFault.OfDocument (pointedAt pointer vs) := by
    induction vs with
    | nil => exact .ok _
    | cons v vs ih =>
      rw [pointedAt]
      split
      · exact FailsOnly.error_iff.mpr (.nothingAt pointer)
      · exact ih.bind fun others _ => .ok _
  have hfiltered (filter : String) (vs : List Value) :
      FailsOnly DocumentFault.OfDocument (filtered filter vs) := by
    induction vs with
    | nil => exact .ok _
    | cons v vs ih =>
      rw [filtered]
      split
      · next e _ => exact FailsOnly.error_iff.mpr (.badFilter e)
      · exact ih.bind fun others _ => .ok _
  unfold InputSettings.refined InputSettings.pointed InputSettings.sifted
  refine .bind ?_ fun _ _ => ?_
  · split
    · exact .ok _
    · exact hpointedAt _ _
  · split
    · exact .ok _
    · exact hfiltered _ _

/-! ## Lines -/

/-- A line that is a file of its own gives what the later stages make of the value that it begins with. -/
theorem lineAlone_eq (s : InputSettings) (line : List Char) :
    s.lineAlone line =
      match Value.ofBytes (Utf8.encode line) with
      | .error e => .error (.badText e)
      | .ok v => s.refined [v] := by
  have hcontent : contentDocuments s.forWhole.byLine (Utf8.encode line) =
      match Value.ofBytes (Utf8.encode line) with
      | .error e => .error (.badText e)
      | .ok v => .ok [v] := rfl
  rw [InputSettings.lineAlone, documentsIn_ok, hcontent]
  cases Value.ofBytes (Utf8.encode line) <;> rfl

/-- A line is spoilt if it is not blank and does not begin with a value. -/
theorem spoilt_iff : s.Spoilt line e ↔
    Text.isBlankLine line = false ∧ Value.ofBytes (Utf8.encode line) = .error e := by
  rw [InputSettings.Spoilt, lineAlone_eq, and_congr_right_iff]
  intro _
  cases Value.ofBytes (Utf8.encode line) with
  | error e' => simp
  | ok v =>
    constructor
    · intro h
      cases refined_failsOnly s [v] _ h
    · rintro ⟨⟩

/-- The documents of lines are those of every line alone. -/
theorem lineDocuments_bind_ok_iff :
    lineDocuments number lines >>= s.refined = .ok vs ↔
      ∃ parts, List.Forall₂ (fun line part => s.lineAlone line = .ok part)
        (lines.filter (!Text.isBlankLine ·)) parts ∧ vs = parts.flatten := by
  have hapart := itemByItem_refined s
  induction lines generalizing number vs with
  | nil => simp [lineDocuments, bind, Except.bind, hapart.nil, eq_comm]
  | cons line rest ih =>
    cases hblank : Text.isBlankLine line with
    | true => simp [lineDocuments, hblank, ih]
    | false =>
      simp only [lineDocuments, hblank, Bool.not_false, List.filter_cons_of_pos,
        List.forall₂_cons_left_iff, lineAlone_eq s line]
      cases Value.ofBytes (Utf8.encode line) with
      | error e => simp [bind, Except.bind]
      | ok v =>
        constructor
        · intro h
          obtain ⟨documents, hdocuments, hvs⟩ := bind_ok_iff.mp h
          obtain ⟨others, hothers, heq⟩ := bind_ok_iff.mp hdocuments
          obtain rfl := Except.ok.inj heq
          obtain ⟨first, more, hfirst, hmore, rfl⟩ := (hapart.cons v others vs).mp hvs
          obtain ⟨parts, hparts, rfl⟩ := ih.mp (bind_ok_iff.mpr ⟨others, hothers, hmore⟩)
          exact ⟨first :: parts, ⟨first, parts, hfirst, hparts, rfl⟩, rfl⟩
        · rintro ⟨_, ⟨first, parts, hfirst, hparts, rfl⟩, rfl⟩
          obtain ⟨others, hothers, hmore⟩ := bind_ok_iff.mp (ih.mpr ⟨parts, hparts, rfl⟩)
          refine bind_ok_iff.mpr ⟨v :: others, bind_ok_iff.mpr ⟨others, hothers, rfl⟩, ?_⟩
          exact (hapart.cons v others _).mpr ⟨first, parts.flatten, hfirst, hmore, rfl⟩

/-- A spoilt line is the first one if there is none in front of it. -/
theorem firstSpoilt_cons_of_spoilt (hline : s.Spoilt line e) {count : Nat} {e' : ReadError} :
    s.FirstSpoilt (line :: lines) count e' ↔ count = 0 ∧ e' = e := by
  constructor
  · rintro ⟨before, other, after, heq, rfl, hother, hbefore⟩
    cases before with
    | nil =>
      obtain ⟨rfl, rfl⟩ := List.cons.inj heq
      exact ⟨rfl, Except.error.inj ((spoilt_iff.mp hother).2.symm.trans (spoilt_iff.mp hline).2)⟩
    | cons first before =>
      obtain ⟨rfl, -⟩ := List.cons.inj heq
      exact absurd hline (hbefore _ List.mem_cons_self e)
  · rintro ⟨rfl, rfl⟩
    exact ⟨[], line, lines, rfl, rfl, hline, fun _ h => absurd h List.not_mem_nil⟩

/-- Behind a line that is not spoilt, the first spoilt line is that of the others. -/
theorem firstSpoilt_cons_of_not (hline : ∀ e, ¬s.Spoilt line e) {count : Nat} :
    s.FirstSpoilt (line :: lines) count e ↔
      ∃ further, count = further + 1 ∧ s.FirstSpoilt lines further e := by
  constructor
  · rintro ⟨before, other, after, heq, rfl, hother, hbefore⟩
    cases before with
    | nil =>
      obtain ⟨rfl, -⟩ := List.cons.inj heq
      exact absurd hother (hline e)
    | cons first before =>
      obtain ⟨-, rfl⟩ := List.cons.inj heq
      exact ⟨before.length, rfl, before, other, after, rfl, rfl, hother,
        fun earlier h => hbefore earlier (List.mem_cons_of_mem _ h)⟩
  · rintro ⟨_, rfl, before, other, after, rfl, rfl, hother, hbefore⟩
    exact ⟨line :: before, other, after, rfl, rfl, hother,
      List.forall_mem_cons.mpr ⟨hline, hbefore⟩⟩

/-- The reading of lines ends at the first one that is spoilt, with its number. -/
theorem lineDocuments_error_iff : lineDocuments number lines = .error fault ↔
    ∃ count e, s.FirstSpoilt lines count e ∧ fault = .badLine (number + count) e := by
  induction lines generalizing number with
  | nil =>
    constructor
    · rintro ⟨⟩
    · rintro ⟨count, e, ⟨before, line, after, heq, -⟩, -⟩
      cases before <;> cases heq
  | cons line rest ih =>
    have hskip (hline : ∀ e, ¬s.Spoilt line e) :
        (∃ count e, s.FirstSpoilt (line :: rest) count e ∧
          fault = .badLine (number + count) e) ↔ lineDocuments (number + 1) rest = .error fault := by
      simp only [ih, firstSpoilt_cons_of_not hline]
      constructor
      · rintro ⟨_, e, ⟨further, rfl, hfirst⟩, rfl⟩
        exact ⟨further, e, hfirst, by rw [Nat.add_right_comm, Nat.add_assoc]⟩
      · rintro ⟨further, e, hfirst, rfl⟩
        exact ⟨further + 1, e, ⟨further, rfl, hfirst⟩, by rw [Nat.add_right_comm, Nat.add_assoc]⟩
    cases hblank : Text.isBlankLine line with
    | true =>
      have hline (e : ReadError) : ¬s.Spoilt line e := by simp [spoilt_iff, hblank]
      rw [hskip hline, lineDocuments, if_pos hblank]
    | false =>
      cases hv : Value.ofBytes (Utf8.encode line) with
      | error e =>
        have hline : s.Spoilt line e := spoilt_iff.mpr ⟨hblank, hv⟩
        simp [lineDocuments, hblank, hv, firstSpoilt_cons_of_spoilt hline, eq_comm]
      | ok v =>
        have hline (e : ReadError) : ¬s.Spoilt line e := by simp [spoilt_iff, hv]
        simp only [hskip hline, lineDocuments, hblank, Bool.false_eq_true, if_false, hv]
        cases lineDocuments (number + 1) rest <;> simp [bind, Except.bind]

/-- If some line is spoilt, there is a first one. -/
theorem exists_firstSpoilt (hline : line ∈ lines) (he : s.Spoilt line e) :
    ∃ count e, s.FirstSpoilt lines count e := by
  induction lines with
  | nil => cases hline
  | cons first rest ih =>
    by_cases hfirst : ∃ e, s.Spoilt first e
    · obtain ⟨e', hfirst⟩ := hfirst
      exact ⟨0, e', (firstSpoilt_cons_of_spoilt hfirst).mpr ⟨rfl, rfl⟩⟩
    · have hnot := not_exists.mp hfirst
      obtain rfl | hrest := List.mem_cons.mp hline
      · exact absurd he (hnot e)
      · obtain ⟨count, e', h⟩ := ih hrest
        exact ⟨count + 1, e', (firstSpoilt_cons_of_not hnot).mpr ⟨count, rfl, h⟩⟩

/-! ## Files -/

/-- A file whose lines are documents is as good as its lines: whatever runs the filter, there are documents
exactly if every line that is not blank gives some as a file of its own, and then they are the documents of
those lines, in order. If a line is no JSON text, the fault is that of the first such line, and it has the
number of the line in the file. -/
theorem lines_apart (s : InputSettings) {content : List UInt8} {cs : List Char}
    (htext : Utf8.decode content = .ok cs) :
    (∀ d path, s.documents d path = s.documentsIn (d.read path)) ∧
    ((∃ vs, s.forLines.documentsIn (.ok content) = .ok vs) ↔
      ∀ line ∈ Text.lines cs, Text.isBlankLine line = false →
        ∃ part, s.lineAlone line = .ok part) ∧
    (∀ vs, s.forLines.documentsIn (.ok content) = .ok vs ↔
      ∃ parts, List.Forall₂ (fun line part => s.lineAlone line = .ok part)
        ((Text.lines cs).filter (!Text.isBlankLine ·)) parts ∧ vs = parts.flatten) ∧
    (∀ number e, s.forLines.documentsIn (.ok content) = .error (.badLine number e) ↔
      ∃ count, number = count + 1 ∧ s.FirstSpoilt (Text.lines cs) count e) ∧
    ((∃ line ∈ Text.lines cs, ∃ e, s.Spoilt line e) →
      ∃ number e, s.forLines.documentsIn (.ok content) = .error (.badLine number e)) := by
  have hlines : s.forLines.documentsIn (.ok content) =
      lineDocuments 1 (Text.lines cs) >>= s.refined := by
    have hcontent : contentDocuments true content = lineDocuments 1 (Text.lines cs) := by
      rw [contentDocuments, if_pos rfl, htext]
    rw [documentsIn_ok]
    exact congrArg (· >>= s.refined) hcontent
  have hdocuments (vs : List Value) : s.forLines.documentsIn (.ok content) = .ok vs ↔
      ∃ parts, List.Forall₂ (fun line part => s.lineAlone line = .ok part)
        ((Text.lines cs).filter (!Text.isBlankLine ·)) parts ∧ vs = parts.flatten := by
    rw [hlines, lineDocuments_bind_ok_iff]
  have hfault (number : Nat) (e : ReadError) :
      s.forLines.documentsIn (.ok content) = .error (.badLine number e) ↔
        ∃ count, number = count + 1 ∧ s.FirstSpoilt (Text.lines cs) count e := by
    rw [hlines]
    constructor
    · intro h
      cases hread : lineDocuments 1 (Text.lines cs) with
      | error fault =>
        obtain ⟨count, e', hfirst, rfl⟩ := lineDocuments_error_iff.mp hread
        rw [hread] at h
        obtain ⟨rfl, rfl⟩ := DocumentFault.badLine.inj (Except.error.inj h)
        exact ⟨count, Nat.add_comm 1 count, hfirst⟩
      | ok vs =>
        rw [hread] at h
        cases refined_failsOnly s vs _ h
    · rintro ⟨count, rfl, hfirst⟩
      rw [lineDocuments_error_iff.mpr ⟨count, e, hfirst, rfl⟩, Nat.add_comm]
      rfl
  refine ⟨documents_eq_documentsIn s, ?_, hdocuments, hfault, ?_⟩
  · calc (∃ vs, s.forLines.documentsIn (.ok content) = .ok vs)
        ↔ ∃ parts, List.Forall₂ (fun line part => s.lineAlone line = .ok part)
            ((Text.lines cs).filter (!Text.isBlankLine ·)) parts := by
          simp only [hdocuments]
          constructor
          · rintro ⟨_, parts, hparts, -⟩
            exact ⟨parts, hparts⟩
          · rintro ⟨parts, hparts⟩
            exact ⟨_, parts, hparts, rfl⟩
      _ ↔ ∀ line ∈ (Text.lines cs).filter (!Text.isBlankLine ·),
            ∃ part, s.lineAlone line = .ok part := by
          simpa only [and_true, implies_true] using exists_forall₂_iff (P := fun _ => True)
      _ ↔ ∀ line ∈ Text.lines cs, Text.isBlankLine line = false →
            ∃ part, s.lineAlone line = .ok part := by
          simp [List.mem_filter]
  · rintro ⟨line, hline, e, he⟩
    obtain ⟨count, e, hfirst⟩ := exists_firstSpoilt hline he
    exact ⟨count + 1, e, (hfault _ _).mpr ⟨count, rfl, hfirst⟩⟩

end Lines

/-- Settings that take the items out of lists. -/
def itemSettings : InputSettings := ⟨true, none, some ".[]", []⟩

/-- Two lists with a blank line between them. -/
def listLines : String := "[true,null]\n \n[false]\n"

/-- A list, a blank line and a line that is no JSON text. -/
def spoiltLines : String := "[true,null]\n\n[\n"

/-- The items of the first line come in front of those of the third. A third line that is no JSON text is
reported by its number. -/
theorem listLines_apart :
    (Utf8.decode (Utf8.encode listLines.toList) = .ok listLines.toList ∧
      itemSettings.forLines.documentsIn (.ok (Utf8.encode listLines.toList)) =
        .ok [.bool true, .null, .bool false]) ∧
    Utf8.decode (Utf8.encode spoiltLines.toList) = .ok spoiltLines.toList ∧
      ∃ e, itemSettings.forLines.documentsIn (.ok (Utf8.encode spoiltLines.toList)) =
        .error (.badLine 3 e) := by
  have hlists : Utf8.decode (Utf8.encode listLines.toList) = .ok listLines.toList := by rfl
  have hspoilt : Utf8.decode (Utf8.encode spoiltLines.toList) = .ok spoiltLines.toList := by rfl
  obtain ⟨-, -, hdocuments, -, -⟩ := lines_apart itemSettings hlists
  obtain ⟨-, -, -, hfault, -⟩ := lines_apart itemSettings hspoilt
  have hsplit : (Text.lines listLines.toList).filter (!Text.isBlankLine ·) =
      ["[true,null]".toList, "[false]".toList] := by decide
  refine ⟨⟨hlists, (hdocuments _).mpr ⟨[[.bool true, .null], [.bool false]], ?_, rfl⟩⟩, hspoilt, ?_⟩
  · rw [hsplit]
    exact .cons (by rfl) (.cons (by rfl) .nil)
  · have hfirst : itemSettings.Spoilt ['['] ⟨[], .endInArray, ⟨1, 1⟩⟩ := ⟨rfl, by rfl⟩
    have hread : Value.ofBytes (Utf8.encode "[true,null]".toList) = .ok (.array [.bool true, .null]) := by
      rfl
    have hlist (e : ReadError) : ¬itemSettings.Spoilt "[true,null]".toList e := by
      rw [spoilt_iff, hread]
      rintro ⟨-, ⟨⟩⟩
    have hblank (e : ReadError) : ¬itemSettings.Spoilt [] e := fun h => by cases h.1
    refine ⟨_, (hfault _ _).mpr ⟨2, rfl, ["[true,null]".toList, []], ['['], [], by rfl, rfl, hfirst, ?_⟩⟩
    exact List.forall_mem_cons.mpr ⟨hlist, List.forall_mem_singleton.mpr hblank⟩

end Rulebook.Command
