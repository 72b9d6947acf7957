namespace AllowPolicy

/-- One step on the way to a part of the data: a field by its name, or a key by its number. -/
inductive Issue.Step where
  | name (s : String)
  | number (n : Int)
  deriving DecidableEq, Repr

/-- Why a part of the data is refused. -/
inductive Issue.Kind where
  | missing
  | extraForbidden
  | invalidKey
  /-- Not the data of the record `schema`. -/
  | modelType (schema : String)
  | dictType
  | stringType
  | stringTooShort
  | stringUnicode
  /-- Not the one text that is expected. -/
  | literal (expected : String)
  | intType
  | intParsing
  | intFromFloat
  | intTooLong
  | notFinite
  | floatType
  | floatParsing
  | boolType
  | boolParsing
  | greaterThan (bound : Int)
  | greaterThanEqual (bound : Int)
  /-- Not one of two texts. -/
  | choice (first second : String)
  /-- A rule of the domain, with its own wording. -/
  | domain (message : String)
  | tagMissing
  | tagUnknown (shown : String)
  | attributesType
  | frozen
  deriving DecidableEq, Repr

def Issue.Kind.tag : Kind → String
  | .missing => "missing"
  | .extraForbidden => "extra_forbidden"
  | .invalidKey => "invalid_key"
  | .modelType _ => "model_type"
  | .dictType => "dict_type"
  | .stringType => "string_type"
  | .stringTooShort => "string_too_short"
  | .stringUnicode => "string_unicode"
  | .literal _ => "literal_error"
  | .intType => "int_type"
  | .intParsing => "int_parsing"
  | .intFromFloat => "int_from_float"
  | .intTooLong => "int_parsing_size"
  | .notFinite => "finite_number"
  | .floatType => "float_type"
  | .floatParsing => "float_parsing"
  | .boolType => "bool_type"
  | .boolParsing => "bool_parsing"
  | .greaterThan _ => "greater_than"
  | .greaterThanEqual _ => "greater_than_equal"
  | .choice _ _ => "enum"
  | .domain _ => "value_error"
  | .tagMissing => "union_tag_not_found"
  | .tagUnknown _ => "union_tag_invalid"
  | .attributesType => "model_attributes_type"
  | .frozen => "frozen_instance"

def Issue.Kind.message : Kind → String
  | .missing => "Field required"
  | .extraForbidden => "Extra inputs are not permitted"
  | .invalidKey => "Keys should be strings"
  | .modelType schema => "Input should be a valid dictionary or instance of " ++ schema
  | .dictType => "Input should be a valid dictionary"
  | .stringType => "Input should be a valid string"
  | .stringTooShort => "String should have at least 1 character"
  | .stringUnicode => "Input should be a valid string, unable to parse raw data as a unicode string"
  | .literal expected => "Input should be '" ++ expected ++ "'"
  | .intType => "Input should be a valid integer"
  | .intParsing => "Input should be a valid integer, unable to parse string as an integer"
  | .intFromFloat => "Input should be a valid integer, got a number with a fractional part"
  | .intTooLong => "Unable to parse input string as an integer, exceeded maximum size"
  | .notFinite => "Input should be a finite number"
  | .floatType => "Input should be a valid number"
  | .floatParsing => "Input should be a valid number, unable to parse string as a number"
  | .boolType => "Input should be a valid boolean"
  | .boolParsing => "Input should be a valid boolean, unable to interpret input"
  | .greaterThan bound => "Input should be greater than " ++ toString bound
  | .greaterThanEqual bound => "Input should be greater than or equal to " ++ toString bound
  | .choice first second => "Input should be '" ++ first ++ "' or '" ++ second ++ "'"
  | .domain message => "Value error, " ++ message
  | .tagMissing => "Unable to extract tag using discriminator 'kind'"
  | .tagUnknown shown =>
    "Input tag '" ++ shown ++ "' found using 'kind' does not match any of the expected tags: " ++
      "'domain', 'ipv4'"
  | .attributesType => "Input should be a valid dictionary or object to extract fields from"
  | .frozen => "Instance is frozen"

/-- A refused part of the data: where it stands, and why it is refused. -/
structure Issue where
  path : List Issue.Step
  kind : Issue.Kind
  deriving DecidableEq, Repr

/-- The same issue, seen from one level further out. -/
def Issue.under (step : Issue.Step) (issue : Issue) : Issue :=
  { issue with path := step :: issue.path }

/-- Data that does not fit a schema, with every reason in the order of the schema's fields. -/
structure Refusal where
  schema : String
  issues : List Issue
  deriving DecidableEq, Repr

end AllowPolicy
