import SignOn.GrantStore
import SignOn.Text.Blank

/-
This file receives the proxy-granting tickets that a server delivers.
-/

namespace SignOn.Callback

open SignOn.Text

/-- The server waits for this document after a delivery. -/
def acknowledgement : String :=
  "<?xml version=\"1.0\"?>\n<casClient:proxySuccess " ++
    "xmlns:casClient=\"http://www.yale.edu/tp/casClient\" />"

/-- A parameter counts without blanks around it, and a blank one is missing. -/
def given? (parameter : Option String) : Option String :=
  (parameter.map trim).filter (· ≠ "")

/-- A delivery needs both parameters; without them the server only checks the address. -/
def receive (store : GrantStore) (now : Span) (iou ticket : Option String) :
    Logged (GrantStore × String) :=
  match given? iou, given? ticket with
  | some iou, some ticket => do
    let saved ← store.save now iou ticket
    Logged.write .info s!"Received proxy-granting ticket for IOU {iou}"
    return (saved, acknowledgement)
  | _, _ => do
    Logged.write .debug "Proxy callback without pgtIou/pgtId"
    return (store, "")

end SignOn.Callback
