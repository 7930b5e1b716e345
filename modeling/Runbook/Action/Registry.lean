import Runbook.Text.Lower

/-!
# Handlers by leading phrase

* `Registry` : handlers under phrases in small letters, each phrase once, in order of registration;
* `Registry.register` : a phrase that is registered again moves to the end with its new handler;
* `Registry.route` : the handler of the longest phrase that starts an action at a word's end, and the
  text it is given.
-/

namespace Runbook

open Text (isBlank lower trim trimStart)

/-- Handlers with their phrases. -/
structure Registry (α : Type) where
  entries : List (String × α)

namespace Registry

variable {α : Type}

/-- No handlers. -/
def empty : Registry α := ⟨[]⟩

/-- A phrase as it is kept: without blanks around it, in small letters. -/
def normalize (phrase : String) : String := String.ofList (lower (trim phrase.toList))

/-- The registry with a handler under a phrase, in place of an earlier one. -/
def register (r : Registry α) (phrase : String) (handler : α) : Registry α :=
  ⟨r.entries.filter (·.1 != normalize phrase) ++ [(normalize phrase, handler)]⟩

/-- The registered phrases, in order. -/
def phrases (r : Registry α) : List String := r.entries.map (·.1)

/-- What follows a prefix. -/
def dropStart? : (start s : List Char) → Option (List Char)
  | [], s => some s
  | a :: start, c :: s => if a == c then dropStart? start s else none
  | _ :: _, [] => none

/-- Whether an action in small letters starts with a phrase that ends there, or before a blank or a
colon. -/
def startsWith (action : List Char) (phrase : String) : Bool :=
  match dropStart? phrase.toList action with
  | none => false
  | some rest => rest.head?.all fun c => isBlank c || c == ':'

/-- A text without its first bytes; none where that would cut a character or exceed the text. -/
def dropBytes? : Nat → List Char → Option (List Char)
  | 0, s => some s
  | _ + 1, [] => none
  | n + 1, c :: s => if c.utf8Size ≤ n + 1 then dropBytes? (n + 1 - c.utf8Size) s else none

/-- The text given to a handler: what follows as many bytes of the action as its phrase has, without
the blanks and colons that separate them. -/
def arguments (action : List Char) (phrase : String) : String :=
  let rest := (dropBytes? phrase.utf8ByteSize action).getD []
  String.ofList (trim ((trimStart rest).dropWhile (· == ':')))

/-- The longer of two entries; of equally long ones the later. -/
def longer (best : Option (String × α)) (entry : String × α) : Option (String × α) :=
  match best with
  | none => some entry
  | some b => if b.1.utf8ByteSize ≤ entry.1.utf8ByteSize then some entry else some b

/-- The handler of a trimmed action, and the text it is given. -/
def route (r : Registry α) (action : List Char) : Option (α × String) :=
  let small := lower action
  let best := (r.entries.filter fun e => startsWith small e.1).foldl longer none
  best.map fun (phrase, handler) => (handler, arguments action phrase)

end Registry

end Runbook
