import FormGuard.Schema.Basic

/-! The schemas that a local configuration, a rule catalog and a message table have to meet. -/
namespace FormGuard.Schema

def text : Schema := all [kinds [.text]]
def nonEmptyText : Schema := all [kinds [.text],minLength 1]
def boolean : Schema := all [kinds [.boolean]]

def localConfig : Schema :=
  all [
    kinds [.object],
    entries [
      ("validation",all [
        kinds [.object],
        entries [
          ("debounce_ms",all [kinds [.integer],minimum 0]),
          ("display_only_last_error",boolean),
          ("bypass_reset_on_transition",boolean),
          ("strict_date_formats",boolean),
          ("locale",nonEmptyText),
          ("fallback_locale",all [kinds [.text,.null]])],
        noOtherEntries ["debounce_ms","display_only_last_error","bypass_reset_on_transition",
          "strict_date_formats","locale","fallback_locale"]]),
      ("rule_catalog_uri",nonEmptyText),
      ("locales_location",nonEmptyText)],
    required ["rule_catalog_uri","locales_location"]]

def operator : Schema := all [options ["<","<=",">",">=","=","==","!=","<>"]]

def count : Schema := all [kinds [.integer],minimum 0,maximum 2]

def rule : Schema :=
  all [
    kinds [.object],
    entries [
      ("kind",all [options ["regex","conditionalDate","conditionalNumber","match"]]),
      ("pattern",text),
      ("message",nonEmptyText),
      ("condition",all [oneOf [operator,all [kinds [.array],items operator,minItems 2,maxItems 2]]]),
      ("date_format",text),
      ("params",all [oneOf [count,all [kinds [.array],items count,minItems 2,maxItems 2]]]),
      ("param_type",all [options ["text","integer","number","date"]])],
    required ["kind","message"],
    noOtherEntries ["kind","pattern","message","condition","date_format","params","param_type"]]

def ruleCatalog : Schema :=
  all [
    kinds [.object],
    entries [
      ("rules",all [kinds [.object],minEntries 1,otherEntries [] rule]),
      ("aliases",all [kinds [.object],otherEntries [] text])],
    required ["rules"]]

def messageTable : Schema := all [kinds [.object],otherEntries [] text]

end FormGuard.Schema
