import FormGuard.Value.Basic

/-! The rule catalog that comes with the library, as a document. -/
namespace FormGuard.Bundled
open Value

def dateIsoPattern : String :=
  "^(19|20)\\d\\d([-/.])(0[1-9]|1[012])\\2(0[1-9]|[12][0-9]|3[01])( ([01]\\d|2[0-3]):[0-5]\\d:[0-5]\\d)?$"

def dateEuroLongPattern : String :=
  "^(0[1-9]|[12][0-9]|3[01])([-/.])(0[1-9]|1[012])\\2(19|20)\\d\\d( ([01]\\d|2[0-3]):[0-5]\\d:[0-5]\\d)?$"

def dateEuroShortPattern : String :=
  "^(0[1-9]|[12][0-9]|3[01])([-/.])(0[1-9]|1[012])\\2\\d\\d$"

def dateUsLongPattern : String :=
  "^(0[1-9]|1[012])([-/.])(0[1-9]|[12][0-9]|3[01])\\2(19|20)\\d\\d( ([01]\\d|2[0-3]):[0-5]\\d:[0-5]\\d)?$"

def dateUsShortPattern : String :=
  "^(0[1-9]|1[012])([-/.])(0[1-9]|[12][0-9]|3[01])\\2\\d\\d$"

def catalogPatterns : Fields := [
  ("date_iso",.text dateIsoPattern),
  ("date_euro_long",.text dateEuroLongPattern),
  ("date_euro_short",.text dateEuroShortPattern),
  ("date_us_long",.text dateUsLongPattern),
  ("date_us_short",.text dateUsShortPattern)]

def catalogRules : Fields := [
  ("required",.object [("kind",.text "regex"),("pattern",.text "\\S+"),
    ("message",.text "INVALID_REQUIRED")]),
  ("alpha",.object [("kind",.text "regex"),("pattern",.text "^[^\\W\\d_]+$"),
    ("message",.text "INVALID_ALPHA")]),
  ("alpha_spaces",.object [("kind",.text "regex"),("pattern",.text "^([^\\W\\d_]|\\s)+$"),
    ("message",.text "INVALID_ALPHA_SPACE")]),
  ("alpha_num",.object [("kind",.text "regex"),("pattern",.text "^[^\\W_]+$"),
    ("message",.text "INVALID_ALPHA_NUM")]),
  ("alpha_num_spaces",.object [("kind",.text "regex"),("pattern",.text "^([^\\W_]|\\s)+$"),
    ("message",.text "INVALID_ALPHA_NUM_SPACE")]),
  ("alpha_dash",.object [("kind",.text "regex"),("pattern",.text "^[\\w-]+$"),
    ("message",.text "INVALID_ALPHA_DASH")]),
  ("alpha_dash_spaces",.object [("kind",.text "regex"),("pattern",.text "^[\\w\\s-]+$"),
    ("message",.text "INVALID_ALPHA_DASH_SPACE")]),
  ("between_len",.object [("kind",.text "regex"),("pattern",.text "^(.|[\\r\\n])\x7b$1,$2\x7d$"),
    ("message",.text "INVALID_BETWEEN_CHAR"),("params",.int 2),("param_type",.text "integer")]),
  ("min_len",.object [("kind",.text "regex"),("pattern",.text "^(.|[\\r\\n])\x7b$1,\x7d$"),
    ("message",.text "INVALID_MIN_CHAR"),("params",.int 1),("param_type",.text "integer")]),
  ("max_len",.object [("kind",.text "regex"),("pattern",.text "^(.|[\\r\\n])\x7b0,$1\x7d$"),
    ("message",.text "INVALID_MAX_CHAR"),("params",.int 1),("param_type",.text "integer")]),
  ("exact_len",.object [("kind",.text "regex"),("pattern",.text "^(.|[\\r\\n])\x7b$1\x7d$"),
    ("message",.text "INVALID_EXACT_LEN"),("params",.int 1),("param_type",.text "integer")]),
  ("between_num",.object [("kind",.text "conditionalNumber"),("condition",.list [.text ">=",.text "<="]),
    ("message",.text "INVALID_BETWEEN_NUM"),("params",.int 2)]),
  ("min_num",.object [("kind",.text "conditionalNumber"),("condition",.text ">="),
    ("message",.text "INVALID_MIN_NUM"),("params",.int 1)]),
  ("max_num",.object [("kind",.text "conditionalNumber"),("condition",.text "<="),
    ("message",.text "INVALID_MAX_NUM"),("params",.int 1)]),
  ("float",.object [("kind",.text "regex"),("pattern",.text "^\\d*\\.\\d+$"),
    ("message",.text "INVALID_FLOAT")]),
  ("float_signed",.object [("kind",.text "regex"),("pattern",.text "^[-+]?\\d*\\.\\d+$"),
    ("message",.text "INVALID_FLOAT_SIGNED")]),
  ("integer",.object [("kind",.text "regex"),("pattern",.text "^\\d+$"),
    ("message",.text "INVALID_INTEGER")]),
  ("integer_signed",.object [("kind",.text "regex"),("pattern",.text "^[-+]?\\d+$"),
    ("message",.text "INVALID_INTEGER_SIGNED")]),
  ("numeric",.object [("kind",.text "regex"),("pattern",.text "^\\d*\\.?\\d+$"),
    ("message",.text "INVALID_NUMERIC")]),
  ("numeric_signed",.object [("kind",.text "regex"),("pattern",.text "^[-+]?\\d*\\.?\\d+$"),
    ("message",.text "INVALID_NUMERIC_SIGNED")]),
  ("credit_card",.object [("kind",.text "regex"),
    ("pattern",.text "^3(?:[47]\\d([ -]?)\\d\x7b4\x7d(?:\\1\\d\x7b4\x7d)\x7b2\x7d|0[0-5]\\d\x7b11\x7d|[68]\\d\x7b12\x7d)$|^4(?:\\d\\d\\d)?([ -]?)\\d\x7b4\x7d(?:\\2\\d\x7b4\x7d)\x7b2\x7d$|^6011([ -]?)\\d\x7b4\x7d(?:\\3\\d\x7b4\x7d)\x7b2\x7d$|^5[1-5]\\d\\d([ -]?)\\d\x7b4\x7d(?:\\4\\d\x7b4\x7d)\x7b2\x7d$|^2014\\d\x7b11\x7d$|^2149\\d\x7b11\x7d$|^2131\\d\x7b11\x7d$|^1800\\d\x7b11\x7d$|^3\\d\x7b15\x7d$"),
    ("message",.text "INVALID_CREDIT_CARD")]),
  ("email",.object [("kind",.text "regex"),("pattern",.text "^[\\w.%+-]+@([\\w-]+\\.)+[a-z]\x7b2,\x7d$"),
    ("message",.text "INVALID_EMAIL")]),
  ("iban",.object [("kind",.text "regex"),
    ("pattern",.text "^[a-z]\x7b2\x7d\\d\x7b2\x7d( ?[a-z0-9])\x7b11,30\x7d$"),
    ("message",.text "INVALID_IBAN")]),
  ("ipv4",.object [("kind",.text "regex"),
    ("pattern",.text "^(25[0-5]|2[0-4]\\d|[01]?\\d\\d?)(\\.(25[0-5]|2[0-4]\\d|[01]?\\d\\d?))\x7b3\x7d$"),
    ("message",.text "INVALID_IPV4")]),
  ("ipv6",.object [("kind",.text "regex"),
    ("pattern",.text "^(([0-9a-f]\x7b1,4\x7d:)\x7b7\x7d[0-9a-f]\x7b1,4\x7d|(([0-9a-f]\x7b1,4\x7d:)\x7b0,6\x7d[0-9a-f]\x7b1,4\x7d)?::(([0-9a-f]\x7b1,4\x7d:)\x7b0,6\x7d[0-9a-f]\x7b1,4\x7d)?)$"),
    ("message",.text "INVALID_IPV6")]),
  ("time",.object [("kind",.text "regex"),("pattern",.text "^([01]?\\d|2[0-3]):[0-5]\\d(:[0-5]\\d)?$"),
    ("message",.text "INVALID_TIME")]),
  ("url",.object [("kind",.text "regex"),("pattern",.text "^(https?|ftp)://[^\\s/$.?#][^\\s]*$"),
    ("message",.text "INVALID_URL")]),
  ("match",.object [("kind",.text "match"),("message",.text "INVALID_MATCH"),
    ("params",.list [.int 1,.int 2])]),
  ("regex",.object [("kind",.text "regex"),("message",.text "INVALID_PATTERN")]),
  ("date_iso",.object [("kind",.text "regex"),("pattern",.text dateIsoPattern),
    ("message",.text "INVALID_DATE_ISO")]),
  ("date_iso_between",.object [("kind",.text "conditionalDate"),("pattern",.text dateIsoPattern),
    ("date_format",.text "ISO"),("condition",.list [.text ">=",.text "<="]),
    ("message",.text "INVALID_DATE_ISO_BETWEEN"),("params",.int 2)]),
  ("date_iso_min",.object [("kind",.text "conditionalDate"),("pattern",.text dateIsoPattern),
    ("date_format",.text "ISO"),("condition",.text ">="),("message",.text "INVALID_DATE_ISO_MIN"),
    ("params",.int 1)]),
  ("date_iso_max",.object [("kind",.text "conditionalDate"),("pattern",.text dateIsoPattern),
    ("date_format",.text "ISO"),("condition",.text "<="),("message",.text "INVALID_DATE_ISO_MAX"),
    ("params",.int 1)]),
  ("date_euro_long",.object [("kind",.text "regex"),("pattern",.text dateEuroLongPattern),
    ("message",.text "INVALID_DATE_EURO_LONG")]),
  ("date_euro_long_between",.object [("kind",.text "conditionalDate"),
    ("pattern",.text dateEuroLongPattern),("date_format",.text "EURO_LONG"),
    ("condition",.list [.text ">=",.text "<="]),("message",.text "INVALID_DATE_EURO_LONG_BETWEEN"),
    ("params",.int 2)]),
  ("date_euro_long_min",.object [("kind",.text "conditionalDate"),("pattern",.text dateEuroLongPattern),
    ("date_format",.text "EURO_LONG"),("condition",.text ">="),
    ("message",.text "INVALID_DATE_EURO_LONG_MIN"),("params",.int 1)]),
  ("date_euro_long_max",.object [("kind",.text "conditionalDate"),("pattern",.text dateEuroLongPattern),
    ("date_format",.text "EURO_LONG"),("condition",.text "<="),
    ("message",.text "INVALID_DATE_EURO_LONG_MAX"),("params",.int 1)]),
  ("date_euro_short",.object [("kind",.text "regex"),("pattern",.text dateEuroShortPattern),
    ("message",.text "INVALID_DATE_EURO_SHORT")]),
  ("date_euro_short_between",.object [("kind",.text "conditionalDate"),
    ("pattern",.text dateEuroShortPattern),("date_format",.text "EURO_SHORT"),
    ("condition",.list [.text ">=",.text "<="]),("message",.text "INVALID_DATE_EURO_SHORT_BETWEEN"),
    ("params",.int 2)]),
  ("date_euro_short_min",.object [("kind",.text "conditionalDate"),("pattern",.text dateEuroShortPattern),
    ("date_format",.text "EURO_SHORT"),("condition",.text ">="),
    ("message",.text "INVALID_DATE_EURO_SHORT_MIN"),("params",.int 1)]),
  ("date_euro_short_max",.object [("kind",.text "conditionalDate"),("pattern",.text dateEuroShortPattern),
    ("date_format",.text "EURO_SHORT"),("condition",.text "<="),
    ("message",.text "INVALID_DATE_EURO_SHORT_MAX"),("params",.int 1)]),
  ("date_us_long",.object [("kind",.text "regex"),("pattern",.text dateUsLongPattern),
    ("message",.text "INVALID_DATE_US_LONG")]),
  ("date_us_long_between",.object [("kind",.text "conditionalDate"),("pattern",.text dateUsLongPattern),
    ("date_format",.text "US_LONG"),("condition",.list [.text ">=",.text "<="]),
    ("message",.text "INVALID_DATE_US_LONG_BETWEEN"),("params",.int 2)]),
  ("date_us_long_min",.object [("kind",.text "conditionalDate"),("pattern",.text dateUsLongPattern),
    ("date_format",.text "US_LONG"),("condition",.text ">="),("message",.text "INVALID_DATE_US_LONG_MIN"),
    ("params",.int 1)]),
  ("date_us_long_max",.object [("kind",.text "conditionalDate"),("pattern",.text dateUsLongPattern),
    ("date_format",.text "US_LONG"),("condition",.text "<="),("message",.text "INVALID_DATE_US_LONG_MAX"),
    ("params",.int 1)]),
  ("date_us_short",.object [("kind",.text "regex"),("pattern",.text dateUsShortPattern),
    ("message",.text "INVALID_DATE_US_SHORT")]),
  ("date_us_short_between",.object [("kind",.text "conditionalDate"),("pattern",.text dateUsShortPattern),
    ("date_format",.text "US_SHORT"),("condition",.list [.text ">=",.text "<="]),
    ("message",.text "INVALID_DATE_US_SHORT_BETWEEN"),("params",.int 2)]),
  ("date_us_short_min",.object [("kind",.text "conditionalDate"),("pattern",.text dateUsShortPattern),
    ("date_format",.text "US_SHORT"),("condition",.text ">="),
    ("message",.text "INVALID_DATE_US_SHORT_MIN"),("params",.int 1)]),
  ("date_us_short_max",.object [("kind",.text "conditionalDate"),("pattern",.text dateUsShortPattern),
    ("date_format",.text "US_SHORT"),("condition",.text "<="),
    ("message",.text "INVALID_DATE_US_SHORT_MAX"),("params",.int 1)])]

def catalogAliases : Fields := [
  ("between",.text "between_num"),
  ("min",.text "min_num"),
  ("max",.text "max_num"),
  ("int",.text "integer"),
  ("int_signed",.text "integer_signed"),
  ("ip",.text "ipv4"),
  ("between_date_iso",.text "date_iso_between"),
  ("between_date_euro_long",.text "date_euro_long_between"),
  ("between_date_euro_short",.text "date_euro_short_between"),
  ("between_date_us_long",.text "date_us_long_between"),
  ("between_date_us_short",.text "date_us_short_between"),
  ("min_date_iso",.text "date_iso_min"),
  ("max_date_iso",.text "date_iso_max")]

def catalog : Value :=
  .object [("patterns",.object catalogPatterns),("rules",.object catalogRules),("aliases",.object catalogAliases)]

end FormGuard.Bundled
