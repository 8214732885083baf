import FormGuard.Value.Basic

/-! The settings of a session: what the configuration leaves out has a default. -/
namespace FormGuard

structure Delay where
  ms : Int
  written : Value
  deriving Repr

namespace Delay

def ofInt (n : Int) : Delay := ⟨n,.int n⟩

def ofValue : Value → Delay
  | .int n => ofInt n
  | .float x => ⟨x.toInt?.getD 0,.float x⟩
  | _ => ofInt 0

end Delay

structure Settings where
  -- time without a keystroke before a field is judged
  inactivityLimit : Delay
  lastMessageOnly : Bool
  keepOnTransition : Bool
  strictDates : Bool
  locale : String
  fallbackLocale : Option String
  deriving Repr

namespace Settings

def defaults : Value.Fields :=
  [("debounce_ms",.int 1000),("display_only_last_error",.bool false),
   ("bypass_reset_on_transition",.bool false),("strict_date_formats",.bool false),
   ("locale",.text "en"),("fallback_locale",.text "en")]

def entries (config : Value) : Value.Fields :=
  match config with
  | .object fields =>
    match Table.get? fields "validation" with
    | some (.object section_) => Table.overlay defaults section_
    | _ => defaults
  | _ => defaults

def isOn (fields : Value.Fields) (name : String) : Bool :=
  match fields.get? name with
  | some v => v.truthy
  | none => false

def delay (fields : Value.Fields) (name : String) : Delay := Delay.ofValue ((fields.get? name).getD .null)

def name? (fields : Value.Fields) (name : String) : Option String :=
  match fields.get? name with
  | some (.text s) => if s = "" then none else some s
  | _ => none

def ofEntries (fields : Value.Fields) : Settings where
  inactivityLimit := delay fields "debounce_ms"
  lastMessageOnly := isOn fields "display_only_last_error"
  keepOnTransition := isOn fields "bypass_reset_on_transition"
  strictDates := isOn fields "strict_date_formats"
  locale := (name? fields "locale").getD ""
  fallbackLocale := name? fields "fallback_locale"

end Settings
end FormGuard
