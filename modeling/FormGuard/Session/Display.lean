import FormGuard.Value.Text

/-! What a page shows next to its fields, and the events that brought it there. -/
namespace FormGuard

inductive DisplayEvent where
  | shown (field message : String) (target : Option String)
  -- the field may be anything that was asked to be cleared
  | cleared (field : Value)
  deriving Repr

inductive LogLevel where
  | debug
  | info
  deriving DecidableEq, Repr

namespace LogLevel

def label : LogLevel → String
  | debug => "DEBUG"
  | info => "INFO"

end LogLevel

def DisplayEvent.logLine : DisplayEvent → LogLevel × String
  | shown field message _ => (.info,"Field " ++ field ++ " invalid: " ++ message)
  | cleared field => (.debug,"Field " ++ field.plainText ++ " message cleared")

structure Display where
  -- events that nobody has taken yet
  events : List DisplayEvent
  messages : Table String
  deriving Repr

namespace Display

def blank : Display := ⟨[],[]⟩

def put (d : Display) (field message : String) (target : Option String) : Display :=
  ⟨d.events ++ [.shown field message target],d.messages.put field message⟩

def clear (d : Display) (field : String) : Display :=
  ⟨d.events ++ [.cleared (.text field)],d.messages.drop field⟩

def clearOther (d : Display) (v : Value) : Display := { d with events := d.events ++ [.cleared v] }

def drain (d : Display) : List DisplayEvent × Display := (d.events,{ d with events := [] })

end Display
end FormGuard
