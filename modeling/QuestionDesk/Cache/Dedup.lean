import QuestionDesk.Cache.Entry
import QuestionDesk.Cache.Store

/-!
# Known prompts and queries

The store remembers under the fingerprint of a prompt the question that it became, and under the
fingerprint of a query the answer that it got. An entry of another shape is as good as none.
-/
namespace QuestionDesk.Cache

/-- The key of the entry for a prompt. -/
def promptKey (fingerprint : String) : String := "question:prompt:" ++ fingerprint

/-- The key of the entry for a query. -/
def queryKey (fingerprint : String) : String := "question:sql:" ++ fingerprint

namespace Store

/-- The entry under a key that passes a check. -/
def findEntry {α : Type} (store : Store) (now : Micros) (key : String)
    (check : Value → Schema.Check α) : Except Failure (Option α) :=
  (store.get now key).map fun found => found.bind fun value => (check value).value?

/-- The seconds for which an entry is kept, given those asked for and those usual. -/
def keepFor (usual : Int) (asked : Option Int) : Int := (asked.filter (· ≠ 0)).getD usual

/-- The question that a prompt became. -/
def findPrompt (store : Store) (now : Micros) (fingerprint : String) :
    Except Failure (Option PromptEntry) :=
  store.findEntry now (promptKey fingerprint) PromptEntry.check

/-- Remembers the question that a prompt became, for a number of seconds. -/
def putPrompt (store : Store) (now : Micros) (seconds : Int) (fingerprint : String)
    (entry : PromptEntry) : Except Failure Store :=
  store.set now (promptKey fingerprint) entry.document (some seconds)

/-- The answer that a query got. -/
def findQuery (store : Store) (now : Micros) (fingerprint : String) :
    Except Failure (Option QueryEntry) :=
  store.findEntry now (queryKey fingerprint) QueryEntry.check

/-- Remembers the answer that a query got, for a number of seconds. -/
def putQuery (store : Store) (now : Micros) (seconds : Int) (fingerprint : String)
    (entry : QueryEntry) : Except Failure Store :=
  store.set now (queryKey fingerprint) entry.document (some seconds)

end Store

end QuestionDesk.Cache
