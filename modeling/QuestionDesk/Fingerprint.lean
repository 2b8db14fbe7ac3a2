import QuestionDesk.Failure
import QuestionDesk.Text.Digest
import QuestionDesk.Text.Lowercase

/-!
# Fingerprints

Prompts and queries are recognised by the digest of their text. Prompts that differ only in case
or in blanks at their ends have one fingerprint; queries are taken as they are. The digest is that
of the UTF-8 form, so a text without one has no fingerprint.
-/
namespace QuestionDesk

/-- A prompt in lower case without blanks at its ends. -/
def normalizedPrompt (prompt : String) : String := Text.lower (Text.strip prompt)

/-- The fingerprint of a prompt. -/
def promptFingerprint (prompt : String) : String := Text.digest (normalizedPrompt prompt)

/-- The fingerprint of a query text. -/
def queryFingerprint (query : String) : String := Text.digest query

/-- The fingerprint of a prompt, if it has one. -/
def promptKey (prompt : String) : Except Failure String :=
  match Text.flaw? (normalizedPrompt prompt) with
  | some flaw => .error (.unencodable flaw)
  | none => .ok (promptFingerprint prompt)

/-- The fingerprint of a query text, if it has one. -/
def queryKey (query : String) : Except Failure String :=
  match Text.flaw? query with
  | some flaw => .error (.unencodable flaw)
  | none => .ok (queryFingerprint query)

end QuestionDesk
