/-! The messages that come with the library, in English. -/
namespace FormGuard

def messagesEnglish : List (String × String) := [
  ("INVALID_ALPHA","May only contain letters."),
  ("INVALID_ALPHA_SPACE","May only contain letters and spaces."),
  ("INVALID_ALPHA_NUM","May only contain letters and numbers."),
  ("INVALID_ALPHA_NUM_SPACE","May only contain letters, numbers and spaces."),
  ("INVALID_ALPHA_DASH","May only contain letters, numbers and dashes."),
  ("INVALID_ALPHA_DASH_SPACE","May only contain letters, numbers, dashes and spaces."),
  ("INVALID_BETWEEN_CHAR","Text must be between :param and :param characters in length."),
  ("INVALID_BETWEEN_NUM","Needs to be a numeric value, between :param and :param."),
  ("INVALID_CREDIT_CARD","Must be a valid credit card number."),
  ("INVALID_DATE_EURO_LONG","Must be a valid date format (dd-mm-yyyy) OR (dd/mm/yyyy)."),
  ("INVALID_DATE_EURO_LONG_BETWEEN","Needs to be a valid date format (dd-mm-yyyy) OR (dd/mm/yyyy) between :param and :param."),
  ("INVALID_DATE_EURO_LONG_MAX","Needs to be a valid date format (dd-mm-yyyy) OR (dd/mm/yyyy), equal to, or before :param."),
  ("INVALID_DATE_EURO_LONG_MIN","Needs to be a valid date format (dd-mm-yyyy) OR (dd/mm/yyyy), equal to, or after :param."),
  ("INVALID_DATE_EURO_SHORT","Must be a valid date format (dd-mm-yy) OR (dd/mm/yy)."),
  ("INVALID_DATE_EURO_SHORT_BETWEEN","Needs to be a valid date format (dd-mm-yy) OR (dd/mm/yy) between :param and :param."),
  ("INVALID_DATE_EURO_SHORT_MAX","Needs to be a valid date format (dd-mm-yy) OR (dd/mm/yy), equal to, or before :param."),
  ("INVALID_DATE_EURO_SHORT_MIN","Needs to be a valid date format (dd-mm-yy) OR (dd/mm/yy), equal to, or after :param."),
  ("INVALID_DATE_ISO","Must be a valid date format (yyyy-mm-dd)."),
  ("INVALID_DATE_ISO_BETWEEN","Needs to be a valid date format (yyyy-mm-dd) between :param and :param."),
  ("INVALID_DATE_ISO_MAX","Needs to be a valid date format (yyyy-mm-dd), equal to, or before :param."),
  ("INVALID_DATE_ISO_MIN","Needs to be a valid date format (yyyy-mm-dd), equal to, or after :param."),
  ("INVALID_DATE_US_LONG","Must be a valid date format (mm/dd/yyyy) OR (mm-dd-yyyy)."),
  ("INVALID_DATE_US_LONG_BETWEEN","Needs to be a valid date format (mm/dd/yyyy) OR (mm-dd-yyyy) between :param and :param."),
  ("INVALID_DATE_US_LONG_MAX","Needs to be a valid date format (mm/dd/yyyy) OR (mm-dd-yyyy), equal to, or before :param."),
  ("INVALID_DATE_US_LONG_MIN","Needs to be a valid date format (mm/dd/yyyy) OR (mm-dd-yyyy), equal to, or after :param."),
  ("INVALID_DATE_US_SHORT","Must be a valid date format (mm/dd/yy) OR (mm-dd-yy)."),
  ("INVALID_DATE_US_SHORT_BETWEEN","Needs to be a valid date format (mm/dd/yy) OR (mm-dd-yy) between :param and :param."),
  ("INVALID_DATE_US_SHORT_MAX","Needs to be a valid date format (mm/dd/yy) OR (mm-dd-yy), equal to, or before :param."),
  ("INVALID_DATE_US_SHORT_MIN","Needs to be a valid date format (mm/dd/yy) OR (mm-dd-yy), equal to, or after :param."),
  ("INVALID_EMAIL","Must be a valid email address."),
  ("INVALID_EXACT_LEN","Must have a length of exactly :param characters."),
  ("INVALID_FLOAT","May only contain a positive float value (integer excluded)."),
  ("INVALID_FLOAT_SIGNED","May only contain a positive or negative float value (integer excluded)."),
  ("INVALID_IBAN","Must be a valid IBAN."),
  ("INVALID_INTEGER","Must be a positive integer."),
  ("INVALID_INTEGER_SIGNED","Must be a positive or negative integer."),
  ("INVALID_IPV4","Must be a valid IP (IPV4)."),
  ("INVALID_IPV6","Must be a valid IP (IPV6)."),
  ("INVALID_KEY_CHAR","Invalid keyboard entry on a field of type \"number\"."),
  ("INVALID_MATCH","Confirmation field does not match specified field \":param\"."),
  ("INVALID_MAX_CHAR","May not be greater than :param characters."),
  ("INVALID_MAX_NUM","Needs to be a numeric value, equal to, or lower than :param."),
  ("INVALID_MIN_CHAR","Must be at least :param characters."),
  ("INVALID_MIN_NUM","Needs to be a numeric value, equal to, or higher than :param."),
  ("INVALID_NUMERIC","Must be a positive number."),
  ("INVALID_NUMERIC_SIGNED","Must be a positive or negative number."),
  ("INVALID_PATTERN","Must be following this format: :param"),
  ("INVALID_REQUIRED","Field is required."),
  ("INVALID_TIME","Must be a valid time format (hh:mm) OR (hh:mm:ss)."),
  ("INVALID_URL","Must be a valid URL.")]

end FormGuard
