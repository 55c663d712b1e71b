import Rulebook.Rule.Descriptor

/-!
# The standard rules

The closed set of rules that the standard provider supplies, each with its description.
-/

namespace Rulebook

/-- The standard rules. -/
inductive StandardRule where
  | boolean
  | number
  | integer
  | float
  | string
  | stringableScalar
  | scalar
  | numeric
  | digital
  | decimal
  | loopable
  | indexedArray
  | keyedArray
  | positive
  | nonNegative
  | negative
  | min
  | max
  | range
  | maxDecimals
  | bit32
  | bit64
  | minSize
  | maxSize
  | exactSize
  | regex
  | unicodeMinLength
  | unicodeMaxLength
  | unicodeExactLength
  | minLength
  | maxLength
  | exactLength
  | unicodePrintable
  | unicodeMultiLine
  | ascii
  | asciiPrintable
  | asciiMultiLine
  | plainText
  | hex
  | alphaNum
  | identifier
  | camelName
  | snakeName
  | lispName
  | uuid
  | base64
  | ipAddress
  | url
  | httpUrl
  | email
  | dateIso8601
  | timeIso8601
  | dateTimeIso8601
  | dateTimeIso8601Zonal
  deriving DecidableEq, Repr

namespace StandardRule

/-- The standard rules in the order in which they are listed. -/
def all : List StandardRule :=
  [.boolean, .number, .integer, .float, .string, .stringableScalar, .scalar, .numeric,
    .digital, .decimal, .loopable, .indexedArray, .keyedArray, .positive, .nonNegative,
    .negative, .min, .max, .range, .maxDecimals, .bit32, .bit64, .minSize, .maxSize,
    .exactSize, .regex, .unicodeMinLength, .unicodeMaxLength, .unicodeExactLength, .minLength,
    .maxLength, .exactLength, .unicodePrintable, .unicodeMultiLine, .ascii, .asciiPrintable,
    .asciiMultiLine, .plainText, .hex, .alphaNum, .identifier, .camelName, .snakeName, .lispName,
    .uuid, .base64, .ipAddress, .url, .httpUrl, .email, .dateIso8601, .timeIso8601,
    .dateTimeIso8601, .dateTimeIso8601Zonal]

/-- The description of a rule. -/
def descriptor : StandardRule → Descriptor
  | .boolean => .typeChecking "boolean" .boolean
  | .number => .typeChecking "number" .number
  | .integer => .typeChecking "integer" .integer
  | .float => .typeChecking "float" .float
  | .string => .typeChecking "string" .string
  | .stringableScalar =>
    (Descriptor.typeChecking "stringableScalar" .stringableScalar)
      |>.formerly "stringable"
  | .scalar => .typeChecking "scalar" .scalar
  | .numeric => .typeChecking "numeric" .numeric
  | .digital => .typeChecking "digital" .digital
  | .decimal => .typeChecking "decimal" .decimal
  | .loopable => (Descriptor.typeChecking "loopable" .container).formerly "iterable"
  | .indexedArray => (Descriptor.typeChecking "indexedArray" .list).formerly "array"
  | .keyedArray => (Descriptor.typeChecking "keyedArray" .map).formerly "object"
  | .positive => .pattern "positive" .number 0 0
  | .nonNegative => .pattern "nonNegative" .number 0 0
  | .negative => .pattern "negative" .number 0 0
  | .min => .pattern "min" .number 1 1
  | .max => .pattern "max" .number 1 1
  | .range => .pattern "range" .number 2 2
  | .maxDecimals => .pattern "maxDecimals" .number 1 1
  | .bit32 => .pattern "bit32" .integer 0 0
  | .bit64 => .pattern "bit64" .integer 0 0
  | .minSize => .pattern "minSize" .container 1 1
  | .maxSize => .pattern "maxSize" .container 1 1
  | .exactSize => .pattern "exactSize" .container 1 1
  | .regex => .pattern "regex" .stringableScalar 1 1
  | .unicodeMinLength => .pattern "unicodeMinLength" .string 1 1
  | .unicodeMaxLength => .pattern "unicodeMaxLength" .string 1 1
  | .unicodeExactLength => .pattern "unicodeExactLength" .string 1 1
  | .minLength => .pattern "minLength" .string 1 1
  | .maxLength => .pattern "maxLength" .string 1 1
  | .exactLength => .pattern "exactLength" .string 1 1
  | .unicodePrintable => .pattern "unicodePrintable" .string 0 0
  | .unicodeMultiLine => .pattern "unicodeMultiLine" .string 0 0
  | .ascii => .pattern "ascii" .string 0 0
  | .asciiPrintable => .pattern "asciiPrintable" .string 0 0
  | .asciiMultiLine => .pattern "asciiMultiLine" .string 0 0
  | .plainText => .pattern "plainText" .string 0 0
  | .hex => .pattern "hex" .string 0 0
  | .alphaNum => .pattern "alphaNum" .string 0 0
  | .identifier => .pattern "name" .string 0 0
  | .camelName => .pattern "camelName" .string 0 0
  | .snakeName => .pattern "snakeName" .string 0 0
  | .lispName => .pattern "lispName" .string 0 0
  | .uuid => .pattern "uuid" .string 0 0
  | .base64 => .pattern "base64" .string 0 0
  | .ipAddress => .pattern "ipAddress" .string 0 0
  | .url => .pattern "url" .string 0 0
  | .httpUrl => .pattern "httpUrl" .string 0 0
  | .email => .pattern "email" .string 0 0
  | .dateIso8601 => (Descriptor.pattern "dateIso8601" .string 0 0).formerly "dateISO8601"
  | .timeIso8601 => (Descriptor.pattern "timeIso8601" .string 0 0).formerly "timeISO8601"
  | .dateTimeIso8601 =>
    (Descriptor.pattern "dateTimeIso8601" .string 0 0)
      |>.formerly "dateTimeISO8601"
  | .dateTimeIso8601Zonal =>
    (Descriptor.pattern "dateTimeIso8601Zonal" .string 0 0)
      |>.formerly "dateTimeISO8601Zonal"

/-- The name of a rule. -/
def name (r : StandardRule) : String := r.descriptor.name

/-- The rule with a name. -/
def ofName? (name : String) : Option StandardRule := all.find? fun r => r.name == name

/-- The former names of rules, each with the current one. -/
def renames : List (String × String) :=
  all.filterMap fun r => r.descriptor.formerName.map fun former => (former, r.name)

end StandardRule

end Rulebook
