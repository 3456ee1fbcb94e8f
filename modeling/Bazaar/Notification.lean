import Bazaar.Record.Field

/-!
# Notifications

Customers are told when something happens to their orders. A notifier either records what it was
asked to send, or stores each notification as a row of the customer's inbox, unread at first. A
failure to deliver never stops the operation that notifies.
-/

namespace Bazaar

/-- A notification to a user: a message, an optional link and a kind. -/
structure Notice where
  userId : String
  message : String
  link : Option String
  kind : String := "ORDER_UPDATE"
  isRead : Bool := false

namespace Notice

/-- A notice checked as an inbox row: a user, a message of at most 1000 characters and a link of
at most 500. -/
def checked (userId message : String) (link : Option String) : Except Fault Notice :=
  let given : Field.Given := [("user_id", .str userId), ("message", .str message),
    ("link", (link.map Json.str).getD .null)]
  ((fun u m l => ({ userId := u, message := m, link := l } : Notice))
    <$> Field.required given "user_id" (Field.identifier 1)
    <*> Field.required given "message" (Field.text 1 (some 1000))
    <*> Field.optional given "link" (Field.text 0 (some 500))).toExcept

end Notice

end Bazaar
