import SlackCourier.Json.Reserved

/-!
# Secrets in log lines

Before a log line is written, the values under the names of secrets are replaced: at the first two
depths under all of these names, at the third under fewer.  Members of an object and items of a list
are one depth each; an item has no name, so only what is below it can be a secret.  A depth that is
searched loses its reserved members.
-/

namespace SlackCourier.Redaction

def censored : Json := .string "[REDACTED]"

def secretNames : List Text :=
  ["token", "authorization", "Authorization", "url", "upload_url", "uploadUrl", "secret",
    "password"]

def deepNames : List Text := ["token", "authorization", "Authorization", "upload_url"]

/-- The names of secrets at each depth, from the first on. -/
def depths : List (List Text) := [secretNames, secretNames, deepNames]

def searched (members : Members) : Members := members.filter fun (k, _) => k != Json.reservedName

/-- A tree in which the values under the names of each depth are censored. -/
def redact : List (List Text) → Json → Json
  | names :: deeper, .object members =>
    .object ((searched members).map fun (k, v) =>
      (k, if names.contains k then censored else redact deeper v))
  | _ :: deeper, .list items => .list (items.map (redact deeper))
  | _, value => value

@[simp] theorem redact_nil (value : Json) : redact [] value = value := by
  cases value <;> rfl

end SlackCourier.Redaction
