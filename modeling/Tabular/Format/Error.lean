/-!
# Why a number format is refused

## Main definitions

- `TemplateError` — the braces of the template do not match up
- `SpecError` — the text inside the field is no number spec
- `FormatError` — either of them, or a field of the wrong shape
- `FormatError.message` — the wording
-/

namespace Tabular

/-- Faults in the brace structure of a template. -/
inductive TemplateError
  | singleClosing
  | singleOpening
  | unclosedField
  | missingConversion
  | textAfterConversion
deriving DecidableEq, Repr

/-- Faults in a number spec. -/
inductive SpecError
  | tooManyDigits
  | bothSeparators
  | missingPrecision
  | unreadable (spec : String)
  | separatorRefused (separator letter : Char)
  | precisionOfInteger
  | negativeZeroOfInteger
  | signOfCharacter
  | alternateOfCharacter
  | unknownForInteger (letter : Char)
  | unknownForFloat (letter : Char)
deriving DecidableEq, Repr

/-- Why a number format is refused. -/
inductive FormatError
  | multipleFields
  | missingField
  | fieldName
  | conversion
  | template (fault : TemplateError)
  | spec (fault : SpecError)
deriving DecidableEq, Repr

/-- The wording of a template fault. -/
def TemplateError.message : TemplateError → String
  | singleClosing => "Single '\x7d' encountered in format string"
  | singleOpening => "Single '\x7b' encountered in format string"
  | unclosedField => "expected '\x7d' before end of string"
  | missingConversion => "end of string while looking for conversion specifier"
  | textAfterConversion => "expected ':' after conversion specifier"

/-- The wording of a spec fault. -/
def SpecError.message : SpecError → String
  | tooManyDigits => "Too many decimal digits in format string"
  | bothSeparators => "Cannot specify both ',' and '_'."
  | missingPrecision => "Format specifier missing precision"
  | unreadable spec => s!"Invalid format specifier '{spec}' for object of type 'int'"
  | separatorRefused separator letter => s!"Cannot specify '{separator}' with '{letter}'."
  | precisionOfInteger => "Precision not allowed in integer format specifier"
  | negativeZeroOfInteger =>
    "Negative zero coercion (z) not allowed in integer format specifier"
  | signOfCharacter => "Sign not allowed with integer format specifier 'c'"
  | alternateOfCharacter => "Alternate form (#) not allowed with integer format specifier 'c'"
  | unknownForInteger letter => s!"Unknown format code '{letter}' for object of type 'int'"
  | unknownForFloat letter => s!"Unknown format code '{letter}' for object of type 'float'"

/-- The wording of a refusal. -/
def FormatError.message : FormatError → String
  | multipleFields => "Can only format one number"
  | missingField => "Format must look like \"\x7b:...\x7d\""
  | fieldName => "Field names or numbers are not allowed"
  | conversion => "Field converters are not allowed"
  | template fault => fault.message
  | spec fault => fault.message

end Tabular
