import Bazaar.Fault

/-!
# Validations that report every broken rule

A record is checked field by field, and all the fields' messages are reported together, not only
the first. `Validation` is the applicative functor of such checks: combining two failed checks
merges their messages, so `Record.mk <$> a <*> b <*> c` builds the record when every check passes
and otherwise collects the messages of all that failed.
-/

namespace Bazaar

namespace Messages

/-- Adds all messages of `more` after those of `ms`, field by field. -/
def merge (ms more : Messages) : Messages :=
  more.foldl (fun acc kv => kv.2.foldl (fun acc' m => acc'.add kv.1 m) acc) ms

end Messages

/-- The outcome of checking values: the checked value, or the messages of every broken rule. -/
inductive Validation (α : Type) where
  | ok (value : α)
  | failed (messages : Messages)

namespace Validation

/-- Applies a function to the checked value. -/
def map {α β : Type} (f : α → β) : Validation α → Validation β
  | ok a => ok (f a)
  | failed ms => failed ms

/-- Applies a checked function to a checked value; failures of both sides are merged. -/
def apply {α β : Type} (vf : Validation (α → β)) (va : Validation α) : Validation β :=
  match vf, va with
  | ok f, ok a => ok (f a)
  | ok _, failed ms => failed ms
  | failed ms, ok _ => failed ms
  | failed ms, failed ms' => failed (ms.merge ms')

instance : Applicative Validation where
  pure := ok
  map := map
  seq vf va := apply vf (va ())

/-- The broken rule of one field. -/
def reject {α : Type} (field msg : String) : Validation α :=
  failed (Messages.single field msg)

/-- A check as a result with the messages as a validation fault. -/
def toExcept {α : Type} : Validation α → Except Fault α
  | ok a => .ok a
  | failed ms => .error (.invalid ms)

/-- Continues with a second check once the first has passed. -/
def andThen {α β : Type} (v : Validation α) (k : α → Validation β) : Validation β :=
  match v with
  | ok a => k a
  | failed ms => failed ms

@[simp] theorem apply_ok_ok {α β : Type} (f : α → β) (a : α) :
    apply (ok f) (ok a) = ok (f a) := rfl

end Validation

end Bazaar
