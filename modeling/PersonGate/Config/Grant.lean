import PersonGate.Text.Split
import PersonGate.Text.Quoted
/-!
# Grants and their text form

A grant gives a token its roles. A list of grants is written `token=role|role,token=role`: entries
are separated by commas, a token ends at the first `=` of its entry, roles are separated by bars.
Blanks around entries, tokens and roles do not count; blank entries and blank roles are skipped. An
entry without `=` or without a token is an error, and the first such entry is the one reported.
-/
namespace PersonGate

/-- A token that the service accepts, with its roles. -/
structure Grant where
  token : Text
  roles : List Text
  deriving DecidableEq, Repr

/-- A setting that is present and makes no sense. -/
structure ConfigError where
  /-- The name of the setting. -/
  key : String
  /-- The text that makes no sense. -/
  value : Text
  deriving DecidableEq, Repr

namespace ConfigError

def invalidStart : String := "invalid value for "

/-- The error as a sentence, its value quoted. -/
def message (e : ConfigError) : Text :=
  invalidStart.toList ++ e.key.toList ++ [':', ' '] ++ Text.quote e.value

end ConfigError

namespace Grant

/-- The setting that holds the grants. -/
def settingKey : String := "AAS_DEMO_TOKENS"

/-- The roles between the bars of a text. -/
def parseRoles (t : Text) : List Text := ((Text.split '|' t).map Text.trim).filter (· ≠ [])

/-- The grant that a trimmed entry writes. -/
def ofEntry (entry : Text) : Except ConfigError Grant :=
  match Text.cut? '=' entry with
  | none => .error ⟨settingKey, entry⟩
  | some (token, roles) =>
    if Text.trim token = [] then .error ⟨settingKey, entry⟩
    else .ok ⟨Text.trim token, parseRoles roles⟩

/-- The entries of a text that are not blank, trimmed. -/
def entries (t : Text) : List Text := ((Text.split ',' t).map Text.trim).filter (· ≠ [])

/-- The grants that the entries write, up to the first bad entry. -/
def ofEntries : List Text → Except ConfigError (List Grant)
  | [] => .ok []
  | entry :: rest =>
    match ofEntry entry with
    | .error e => .error e
    | .ok grant =>
      match ofEntries rest with
      | .error e => .error e
      | .ok grants => .ok (grant :: grants)

/-- The grants that a text writes. -/
def parse (t : Text) : Except ConfigError (List Grant) := ofEntries (entries t)

/-- Joined texts hold the entries of both. -/
theorem entries_append (a b : Text) : entries (a ++ ',' :: b) = entries a ++ entries b := by
  simp [entries, Text.split_append]

end Grant
end PersonGate
