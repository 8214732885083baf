import FormGuard.Fault
import FormGuard.Table

/-! The hook that page transitions fire. It calls its listeners in the order in which they subscribed; listeners that
come or go while it fires do not change who is called. Ending a subscription takes out the first
subscription of the same listener, if there is one. -/
namespace FormGuard

structure Hook (α : Type) where
  listeners : List α
  deriving Repr

namespace Hook

variable {α : Type}

def silent : Hook α := ⟨[]⟩

def subscribe (h : Hook α) (listener : α) : Hook α := ⟨h.listeners ++ [listener]⟩

def unsubscribe [BEq α] (h : Hook α) (listener : α) : Hook α := ⟨h.listeners.erase listener⟩

def notice (h : Hook α) : String :=
  "Page transition, notifying " ++ toString h.listeners.length ++ " subscriber(s)"

end Hook

/-- Listeners by name. Each may end a subscription when it is called, by the name the subscription was given. -/
structure Switchboard where
  hook : Hook String
  -- the subscription that a listener ends, settled when the listener is first named
  ends : Table (Option String)
  subscriptions : Table String
  deriving Repr

namespace Switchboard

def silent : Switchboard := ⟨.silent,[],[]⟩

def subscribe (b : Switchboard) (subscription listener : String) (ending : Option String) : Switchboard where
  hook := b.hook.subscribe listener
  ends := if b.ends.has listener then b.ends else b.ends.put listener ending
  subscriptions := b.subscriptions.put subscription listener

def unsubscribe (b : Switchboard) (subscription : String) : Except Fault Switchboard :=
  match b.subscriptions.get? subscription with
  | none => .error .absentEntry
  | some listener => .ok { b with hook := b.hook.unsubscribe listener }

def call (b : Switchboard) (listener : String) : Except Fault Switchboard :=
  match (b.ends.get? listener).join with
  | none => .ok b
  | some subscription => b.unsubscribe subscription

def callAll : List String → Switchboard → (Except Fault Unit × List String) × Switchboard
  | [],b => ((.ok (),[]),b)
  | listener :: rest,b =>
    match b.call listener with
    | .error f => ((.error f,[listener]),b)
    | .ok b =>
      let ((r,called),b) := callAll rest b
      ((r,listener :: called),b)

def fire (b : Switchboard) : (Except Fault Unit × List String) × Switchboard := callAll b.hook.listeners b

end Switchboard
end FormGuard
