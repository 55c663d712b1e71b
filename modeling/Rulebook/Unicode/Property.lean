import Rulebook.Unicode.Blank
import Rulebook.Unicode.CategoryData
import Rulebook.Unicode.CharSet
import Rulebook.Unicode.Digit
import Rulebook.Unicode.FoldingData
import Rulebook.Unicode.PropertyData
import Rulebook.Unicode.ScriptData

/-!
# Properties of characters

General categories, scripts, the derived properties and simple case folding, each as a set of
characters or a map between them.
-/

namespace Rulebook.Unicode

/-- The value of a hexadecimal digit in lower case. -/
def lowHexValue (c : Char) : Nat := if c.isDigit then c.toNat - 48 else c.toNat - 87

/-- The runs of a table whose names have a fixed number of letters, as the range of each run. The fuel
is a bound on the characters left. -/
def runsFrom (letters : Nat) : Nat → (start : Nat) → List Char → List (String × Nat × Nat)
  | 0, _, _ => []
  | _, _, [] => []
  | fuel + 1, start, chars =>
    let name := String.ofList (chars.take letters)
    let digits := (chars.drop letters).takeWhile fun c => !c.isUpper
    let length := digits.foldl (fun n c => 16 * n + lowHexValue c) 0
    (name, start, start + length - 1) ::
      runsFrom letters fuel (start + length) (chars.drop (letters + digits.length))

/-- The runs of a table. -/
def runsOf (letters : Nat) (table : String) : List (String × Nat × Nat) :=
  runsFrom letters table.length 0 table.toList

/-- The general categories as runs over all code points. -/
def categories : List (String × Nat × Nat) := runsOf 2 (String.join categoryRuns)

/-- The scripts as runs over all code points. -/
def scripts : List (String × Nat × Nat) := runsOf 4 (String.join scriptRuns)

/-- The characters whose run has one of the given names. -/
def named (table : List (String × Nat × Nat)) (names : List String) : CharSet :=
  .ofRanges ((table.filter fun run => names.contains run.1).map Prod.snd)

/-- The characters of the given general categories. -/
def inCategories (names : List String) : CharSet := named categories names

/-- The characters of a script, given by its four letters. -/
def inScript (name : String) : CharSet := named scripts [name]

/-- Letters in lower case, and characters that count as such. -/
def lowercase : CharSet := (inCategories ["Ll"]).union (.ofRanges otherLowercase)

/-- Letters in upper case, and characters that count as such. -/
def uppercase : CharSet := (inCategories ["Lu"]).union (.ofRanges otherUppercase)

/-- Letters, and characters that count as such. -/
def alphabetic : CharSet :=
  ((inCategories ["Lt", "Lm", "Lo", "Nl"]).union (lowercase.union uppercase)).union
    (.ofRanges otherAlphabetic)

/-- The characters that join their neighbours without being seen. -/
def joinControl : CharSet := ⟨[(0x200C, 0x200D)]⟩

/-- The decimal digits of all scripts, ten from each zero on. -/
def decimalDigits : CharSet := .ofRanges (zeros.map fun z => (z, z + 9))

/-- White space. -/
def blanks : CharSet := .ofRanges blankRanges

/-- Characters that are part of a word: letters, marks, decimal digits and connectors. -/
def wordChars : CharSet :=
  ((alphabetic.union (inCategories ["Mn", "Mc", "Me", "Pc"])).union decimalDigits).union joinControl

/-- Characters that are shown on top of the one in front of them. -/
def graphemeExtend : CharSet :=
  (inCategories ["Mn", "Me"]).union (.ofRanges otherGraphemeExtend)

/-- The characters that are shown as themselves in quoted text: no controls, no marks of format, no
unassigned or private code points, and no blanks but the space. -/
def printable : CharSet :=
  (inCategories ["Cc", "Cf", "Cs", "Co", "Cn", "Zl", "Zp", "Zs"]).complement.union (.single ' ')

/-- The symbol that may stand in an identifier's letters by category but is part of pattern text. -/
def patternLetter : CharSet := ⟨[(0x2E2F, 0x2E2F)]⟩

/-- The characters that may begin an identifier. -/
def idStart : CharSet :=
  ((inCategories ["Lu", "Ll", "Lt", "Lm", "Lo", "Nl"]).union (.ofRanges otherIdStart)).difference
    patternLetter

/-- The characters that may follow in an identifier. -/
def idContinue : CharSet :=
  (idStart.union (inCategories ["Mn", "Mc", "Nd", "Pc"])).union (.ofRanges otherIdContinue)

/-- Every character that differs in case from its representative, with the representative. -/
def foldings : List (Nat × Nat) :=
  foldingRuns.flatMap fun (first, count, step, distance) =>
    (List.range count).map fun i => (first + step * i, first + step * i - distance)

/-- The characters that differ from one of the set at most in case. -/
def CharSet.closeUnderCase (s : CharSet) : CharSet :=
  let down := (foldings.filter fun f => CharSet.holds f.1 s.ranges).map fun f => (f.2, f.2)
  let base := s.union (.ofRanges down)
  let up := (foldings.filter fun f => CharSet.holds f.2 base.ranges).map fun f => (f.1, f.1)
  base.union (.ofRanges up)

/-- The set with the other case of its ASCII letters. -/
def CharSet.closeUnderAsciiCase (s : CharSet) : CharSet :=
  let upper := s.intersection ⟨[(0x41, 0x5A)]⟩
  let lower := s.intersection ⟨[(0x61, 0x7A)]⟩
  (s.union ⟨upper.ranges.map fun r => (r.1 + 32, r.2 + 32)⟩).union
    ⟨lower.ranges.map fun r => (r.1 - 32, r.2 - 32)⟩

/-! ## Properties by name -/

/-- The form of a property name in which case, blanks, underscores, hyphens and a leading `is` do not
count. -/
def looseName (name : List Char) : String :=
  let isPrefixed := (name.take 2).map Char.toLower == ['i', 's']
  let rest := if isPrefixed then name.drop 2 else name
  let kept := rest.filter fun c => c.toNat < 128 && c != ' ' && c != '_' && c != '-'
  let loose := kept.map Char.toLower
  String.ofList (if isPrefixed && loose == ['c'] then ['i', 's', 'c'] else loose)

/-- The general categories, each with the names it goes by and the two-letter categories in it. -/
def categoryNames : List (List String × List String) :=
  [(["lu", "uppercaseletter"], ["Lu"]), (["ll", "lowercaseletter"], ["Ll"]),
    (["lt", "titlecaseletter"], ["Lt"]), (["lc", "casedletter"], ["Lu", "Ll", "Lt"]),
    (["lm", "modifierletter"], ["Lm"]), (["lo", "otherletter"], ["Lo"]),
    (["l", "letter"], ["Lu", "Ll", "Lt", "Lm", "Lo"]),
    (["mn", "nonspacingmark"], ["Mn"]), (["mc", "spacingmark"], ["Mc"]),
    (["me", "enclosingmark"], ["Me"]), (["m", "mark", "combiningmark"], ["Mn", "Mc", "Me"]),
    (["nd", "decimalnumber", "digit"], ["Nd"]), (["nl", "letternumber"], ["Nl"]),
    (["no", "othernumber"], ["No"]), (["n", "number"], ["Nd", "Nl", "No"]),
    (["pc", "connectorpunctuation"], ["Pc"]), (["pd", "dashpunctuation"], ["Pd"]),
    (["ps", "openpunctuation"], ["Ps"]), (["pe", "closepunctuation"], ["Pe"]),
    (["pi", "initialpunctuation"], ["Pi"]), (["pf", "finalpunctuation"], ["Pf"]),
    (["po", "otherpunctuation"], ["Po"]),
    (["p", "punctuation", "punct"], ["Pc", "Pd", "Ps", "Pe", "Pi", "Pf", "Po"]),
    (["sm", "mathsymbol"], ["Sm"]), (["sc", "currencysymbol"], ["Sc"]),
    (["sk", "modifiersymbol"], ["Sk"]), (["so", "othersymbol"], ["So"]),
    (["s", "symbol"], ["Sm", "Sc", "Sk", "So"]),
    (["zs", "spaceseparator"], ["Zs"]), (["zl", "lineseparator"], ["Zl"]),
    (["zp", "paragraphseparator"], ["Zp"]), (["z", "separator"], ["Zs", "Zl", "Zp"]),
    (["cc", "control", "cntrl"], ["Cc"]), (["cf", "format"], ["Cf"]),
    (["cs", "surrogate"], ["Cs"]), (["co", "privateuse"], ["Co"]), (["cn", "unassigned"], ["Cn"]),
    (["c", "other"], ["Cc", "Cf", "Cs", "Co", "Cn"])]

/-- The characters of a general category given by a loose name. -/
def categoryOf? (name : String) : Option CharSet :=
  if name == "any" then some .full
  else if name == "assigned" then some (inCategories ["Cn"]).complement
  else if name == "ascii" then some ⟨[(0, 127)]⟩
  else (categoryNames.find? fun entry => entry.1.contains name).map fun entry =>
    inCategories entry.2

/-- The characters of a script given by a loose name. -/
def scriptOf? (name : String) : Option CharSet :=
  (scriptNames.find? fun entry =>
    looseName entry.1.toList == name || looseName entry.2.toList == name).map fun entry =>
    inScript entry.1

/-- The properties that hold or do not hold of a character, each with the names it goes by. -/
def binaryProperties : List (List String × CharSet) :=
  [(["alpha", "alphabetic"], alphabetic), (["lower", "lowercase"], lowercase),
    (["upper", "uppercase"], uppercase),
    (["cased"], (lowercase.union uppercase).union (inCategories ["Lt"])),
    (["wspace", "whitespace", "space"], blanks),
    (["ahex", "asciihexdigit"], ⟨[(0x30, 0x39), (0x41, 0x46), (0x61, 0x66)]⟩),
    (["hex", "hexdigit"],
      ⟨[(0x30, 0x39), (0x41, 0x46), (0x61, 0x66), (0xFF10, 0xFF19), (0xFF21, 0xFF26),
        (0xFF41, 0xFF46)]⟩),
    (["joinc", "joincontrol"], joinControl), (["grext", "graphemeextend"], graphemeExtend),
    (["ids", "idstart"], idStart), (["idc", "idcontinue"], idContinue),
    (["ideo", "ideographic"], .ofRanges ideographic), (["emoji"], .ofRanges emoji)]

/-- The characters with a binary property given by a loose name. -/
def binaryProperty? (name : String) : Option CharSet :=
  (binaryProperties.find? fun entry => entry.1.contains name).map Prod.snd

end Rulebook.Unicode
