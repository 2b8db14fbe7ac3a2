import QuestionDesk.Clock
import QuestionDesk.Failure
import QuestionDesk.Json.Writer
import QuestionDesk.Keyed

/-!
# The store

A store keeps texts under keys, each for a time or for ever, and values as JSON texts. An item
whose time has come is as good as gone. Some commands may be out of order for a while.
-/
namespace QuestionDesk.Cache

/-- The commands of a store. -/
inductive Command where
  /-- Read an item. -/
  | get
  /-- Write an item. -/
  | set
  /-- Remove an item. -/
  | delete
  /-- Remove everything. -/
  | flush
  deriving DecidableEq, Repr

/-- A text and the moment when it is gone. -/
structure Item where
  /-- The text. -/
  text : String
  /-- The moment from which on the item is gone. -/
  expires : Option Micros
  deriving DecidableEq, Repr

/-- Whether an item is still there. -/
def Item.isLive (item : Item) (now : Micros) : Bool :=
  match item.expires with
  | some moment => now < moment
  | none => true

/-- The items under their keys, and the commands that are out of order. -/
structure Store where
  /-- The items, each key at most once. -/
  items : Keyed Item := []
  /-- The commands that fail. -/
  failing : List Command := []
  deriving DecidableEq, Repr

namespace Store

/-- The item that is there under a key. -/
def find? (store : Store) (now : Micros) (key : String) : Option Item :=
  (store.items.find? key).filter (·.isLive now)

/-- The items that are there. -/
def live (store : Store) (now : Micros) : Keyed Item :=
  store.items.filter fun entry => entry.2.isLive now

/-- The store without the item under a key. -/
def without (store : Store) (key : String) : Store :=
  { store with items := store.items.without key }

/-- The store with an item under a key. -/
def withItem (store : Store) (key : String) (item : Item) : Store :=
  { store with items := (store.without key).items ++ [(key, item)] }

/-- The text under a key. -/
def getText (store : Store) (now : Micros) (key : String) : Except Failure (Option String) :=
  if store.failing.contains .get then .error (.cache ("Cache read failed for " ++ key))
  else .ok ((store.find? now key).map Item.text)

/-- The value under a key. A text that is no JSON document is as good as none. -/
def get (store : Store) (now : Micros) (key : String) : Except Failure (Option Value) :=
  match store.getText now key with
  | .error failure => .error failure
  | .ok none => .ok none
  | .ok (some text) => .ok (Json.read text).toOption

/-- Writes a text under a key, for a number of seconds or for ever; the number has to be
positive. -/
def setText (store : Store) (now : Micros) (key text : String) (seconds : Option Int) :
    Except Failure Store :=
  let failure := Failure.cache ("Cache write failed for " ++ key)
  if store.failing.contains .set then .error failure
  else
    match seconds with
    | none => .ok (store.withItem key ⟨text, none⟩)
    | some seconds =>
      if seconds ≤ 0 then .error failure
      else .ok (store.withItem key ⟨text, some (now + Micros.ofSeconds seconds)⟩)

/-- Writes a value under a key; no number of seconds, and zero, mean for ever. -/
def set (store : Store) (now : Micros) (key : String) (value : Value) (seconds : Option Int) :
    Except Failure Store :=
  store.setText now key (Json.write value) (seconds.filter (· ≠ 0))

/-- Removes the item under a key and tells how many there were. -/
def delete (store : Store) (now : Micros) (key : String) : Except Failure (Nat × Store) :=
  if store.failing.contains .delete then .error (.cache ("Cache delete failed for " ++ key))
  else .ok (if (store.find? now key).isSome then 1 else 0, store.without key)

/-- Removes everything. -/
def flush (store : Store) : Except Failure Store :=
  if store.failing.contains .flush then .error (.cache "Cache flush failed")
  else .ok { store with items := [] }

end Store

end QuestionDesk.Cache
