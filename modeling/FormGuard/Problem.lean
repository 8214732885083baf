import FormGuard.Schema.Violation

/-! Everything that can be wrong with a rule string, a field's attributes, a request to the session or a
configuration, with the wording of each. A `Failure` is one of these, or an evaluation that broke down. -/
namespace FormGuard

inductive Problem where
  | unclosedClause (rules : String)
  | repeatedClause (rules : String)
  | clauseWithoutSeparator (clause : String)
  | badClausePattern (pattern detail : String)
  | clauseMissing
  | emptyRule (position : Nat)
  | unknownRule (name : String) (known : List String)
  | wrongArity (rule : String) (least most : Int) (given : List String)
  | unsuitableParam (rule expected param : String)
  | unusablePattern (rule : String) (params : List String) (detail : String)
  | namelessField
  | noContext (operation : String) (form : Value)
  | unknownLayout (name : Value)
  | untranslated (key locale : String)
  | unknownField (name : Value)
  | badAttributes (path : List PathStep) (c : Complaint)
  | unreadableConfig (path detail : String)
  | unreadable (path detail : String)
  | unparsable (address detail : String)
  | unfetched (address reason : String)
  | unsupportedScheme (scheme address : String)
  | badDocument (source : String) (path : List PathStep) (c : Complaint)
  deriving Repr

inductive Family where
  | malformedClause
  | emptyToken
  | unknownRule
  | invalidParams
  | namelessField
  | missingContext
  | invalidLayout
  | untranslated
  | unknownField
  | invalidAttributes
  | configuration
  deriving DecidableEq, Repr

namespace Family

def label : Family → String
  | malformedClause => "MalformedRegexClause"
  | emptyToken => "EmptyRuleToken"
  | unknownRule => "UnknownRule"
  | invalidParams => "InvalidRuleParams"
  | namelessField => "MissingFieldNameAttribute"
  | missingContext => "MissingValidationContext"
  | invalidLayout => "InvalidDateFormat"
  | untranslated => "TranslationError"
  | unknownField => "FieldNotRegistered"
  | invalidAttributes => "InvalidFieldAttributes"
  | configuration => "ConfigError"

end Family

namespace Problem

def family : Problem → Family
  | unclosedClause _ | repeatedClause _ | clauseWithoutSeparator _ | badClausePattern .. | clauseMissing =>
    .malformedClause
  | emptyRule _ => .emptyToken
  | unknownRule .. => .unknownRule
  | wrongArity .. | unsuitableParam .. | unusablePattern .. => .invalidParams
  | namelessField => .namelessField
  | noContext .. => .missingContext
  | unknownLayout _ => .invalidLayout
  | untranslated .. => .untranslated
  | unknownField _ => .unknownField
  | badAttributes .. => .invalidAttributes
  | unreadableConfig .. | unreadable .. | unparsable .. | unfetched .. | unsupportedScheme .. | badDocument .. =>
    .configuration

def quotedList (texts : List String) : String := "[" ++ Complaint.listed texts ++ "]"

def arityText (least most : Int) : String :=
  if least = most then toString least else toString least ++ " to " ++ toString most

def message (w : Wording) : Problem → String
  | unclosedClause rules =>
    "Regex validator within the validation needs to be defined with an opening \"regex:\" and a closing " ++
      "\":regex\", please review your validator: " ++ Text.quoted rules
  | repeatedClause rules =>
    "Only one custom regex clause is allowed per rule pipeline: " ++ Text.quoted rules
  | clauseWithoutSeparator clause =>
    "Custom regex clause must be written as regex:<message>:=<pattern>:regex, got " ++ Text.quoted clause
  | badClausePattern pattern detail =>
    "Invalid custom regex " ++ Text.quoted pattern ++ ": " ++ w.detail detail
  | clauseMissing => "The \"regex\" rule needs a pattern: regex:<message>:=<pattern>:regex"
  | emptyRule position => "Empty rule at position " ++ toString position ++ " in rule pipeline"
  | unknownRule name known =>
    "Unknown validation rule: " ++ Text.quoted name ++ ". Known rules: " ++ String.intercalate ", " known
  | wrongArity rule least most given =>
    "Rule " ++ Text.quoted rule ++ " takes " ++ arityText least most ++ " param(s), got " ++
      toString given.length ++ ": " ++ quotedList given
  | unsuitableParam rule expected param =>
    "Rule " ++ Text.quoted rule ++ " expects " ++ expected ++ ", got " ++ Text.quoted param
  | unusablePattern rule params detail =>
    "Rule " ++ Text.quoted rule ++ " cannot use params " ++ quotedList params ++ ": " ++ w.detail detail
  | namelessField => "A field needs a name to be validated (attribute 'name' or 'elmName')"
  | noContext operation form =>
    operation ++ "() requires a validation summary, but no field was registered for " ++
      (if form.truthy then "form " ++ form.quoted else "this page")
  | unknownLayout name => "Unknown date format: " ++ name.quoted
  | untranslated key locale => "No translation for " ++ Text.quoted key ++ " in locale " ++ locale
  | unknownField name => "Field " ++ name.quoted ++ " is not registered"
  | badAttributes path c => "Invalid field attributes at " ++ pathText path ++ ": " ++ c.message w
  | unreadableConfig path detail => "Cannot read local config " ++ path ++ ": " ++ w.detail detail
  | unreadable path detail => "Cannot read " ++ path ++ ": " ++ w.detail detail
  | unparsable address detail => "Cannot parse " ++ address ++ ": " ++ w.detail detail
  | unfetched address reason => "Failed to fetch config from " ++ address ++ ": " ++ reason
  | unsupportedScheme scheme address => "Unsupported URI scheme: " ++ scheme ++ " in " ++ address
  | badDocument source path c =>
    "Invalid configuration in " ++ source ++ " at " ++ pathText path ++ ": " ++ c.message w

end Problem

inductive Failure where
  | problem (p : Problem)
  | fault (f : Fault)
  deriving Repr

end FormGuard
