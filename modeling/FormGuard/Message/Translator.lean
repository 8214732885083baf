import FormGuard.Rule.Pipeline

/-! Message texts by key, and the message of a failed rule. A key missing from the table of the locale is looked up in the
fallback table. Each `:param` of a text is replaced by the next parameter, one after the other in the text so far. -/
namespace FormGuard
open FormGuard.Text

abbrev MessageTable := Table String

structure Translator where
  messages : MessageTable
  fallback : MessageTable
  locale : String
  deriving Repr

def Translator.translate (t : Translator) (key : String) : Except Problem String :=
  match t.messages.lookup key with
  | some s => .ok s
  | none =>
    match t.fallback.lookup key with
    | some s => .ok s
    | none => .error (.untranslated key t.locale)

def Translator.textOr (t : Translator) (key otherwise : String) : String :=
  match t.translate key with
  | .ok s => s
  | .error _ => otherwise

def paramMark : List Char := ":param".toList

def insertParams (template : List Char) (params : List String) : List Char :=
  params.foldl (fun text p => replaceFirst paramMark p.toList text) template

namespace Descriptor

/-- A confirmation with a label shows the label and not the name of the other field. -/
def shownParams (d : Descriptor) : List String :=
  if d.kind = .confirmation ∧ 1 < d.params.length then d.params.drop 1 else d.params

def messageSource (d : Descriptor) : String :=
  if d.altText = "" then d.messageKey
  else String.ofList (replaceFirst Token.altMark [] d.altText.toList)

def render (t : Translator) (d : Descriptor) : String :=
  match t.translate d.messageSource with
  | .ok s => String.ofList (insertParams s.toList d.shownParams)
  | .error _ => if d.altText = "" then "" else d.messageSource

end Descriptor
end FormGuard
