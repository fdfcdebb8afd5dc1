import SlackCourier.Proofs.Task.Acceptance
import SlackCourier.Server.Settings

/-!
# Accepted settings

Settings are accepted when every one of them is, and then each is what its check made of the text of
its name.
-/

namespace SlackCourier

/-- The credential that the texts of an environment set up. -/
def Task.Defaults.ofTexts (texts : List (Text × Text)) : Defaults :=
  ⟨texts.lookup (Text.ofString "SLACK_TOKEN"), texts.lookup (Text.ofString "SLACK_DOMAIN")⟩

namespace Server.Settings

/-- The text of a name, as a field of a record. -/
def given (texts : List (Text × Text)) (name : Text) : Option Json :=
  (texts.lookup name).map .string

/-- What each of some accepted settings was made of. -/
structure Reads (texts : List (Text × Text)) (settings : Settings) : Prop where
  listenAt : Check.withDefault defaultListenAt checkNumber (given texts "PORT") =
    .ok settings.listenAt
  mode : Check.withDefault .development (Check.choice modes) (given texts "NODE_ENV") =
    .ok settings.mode
  logLevel : Check.withDefault .info (Check.choice logLevels) (given texts "LOG_LEVEL") =
    .ok settings.logLevel
  token : optionalText 1 (given texts "SLACK_TOKEN") = .ok settings.token
  domain : optionalText 1 (given texts "SLACK_DOMAIN") = .ok settings.domain
  allowedOrigins : Check.withDefault defaultOrigins Check.text (given texts "ALLOWED_ORIGINS") =
    .ok settings.allowedOrigins
  apiKey : optionalText leastKeyUnits (given texts "API_KEY") = .ok settings.apiKey
  uploadDirectory : optionalText 1 (given texts "UPLOAD_DIR") = .ok settings.uploadDirectory

theorem lookup_texts (texts : List (Text × Text)) (name : Text) :
    (texts.map fun (name, text) => (name, Json.string text)).lookup name = given texts name := by
  unfold given
  induction texts with
  | nil => rfl
  | cons entry rest ih =>
    obtain ⟨key, text⟩ := entry
    rw [List.map_cons, List.lookup_cons, List.lookup_cons]
    cases name == key with
    | true => rfl
    | false => exact ih

theorem ofTexts_eq_ok_iff {texts : List (Text × Text)} {settings : Settings} :
    ofTexts texts = .ok settings ↔ Reads texts settings := by
  unfold ofTexts
  rw [Checked.toRecord_eq_ok_iff]
  constructor
  · intro h
    obtain ⟨b8, p8, h, h8, e8⟩ := Checked.field_eq_accepted_iff.1 h
    obtain ⟨b7, p7, h, h7, e7⟩ := Checked.field_eq_accepted_iff.1 h
    obtain ⟨b6, p6, h, h6, e6⟩ := Checked.field_eq_accepted_iff.1 h
    obtain ⟨b5, p5, h, h5, e5⟩ := Checked.field_eq_accepted_iff.1 h
    obtain ⟨b4, p4, h, h4, e4⟩ := Checked.field_eq_accepted_iff.1 h
    obtain ⟨b3, p3, h, h3, e3⟩ := Checked.field_eq_accepted_iff.1 h
    obtain ⟨b2, p2, h, h2, e2⟩ := Checked.field_eq_accepted_iff.1 h
    obtain ⟨b1, p1, h, h1, e1⟩ := Checked.field_eq_accepted_iff.1 h
    have hmk := Checked.accepted.inj h
    have hsettings : settings = Settings.mk p1 p2 p3 p4 p5 p6 p7 p8 := by
      rw [e8, e7, e6, e5, e4, e3, e2, e1, ← hmk]
    rw [hsettings]
    simp only [lookup_texts] at h1 h2 h3 h4 h5 h6 h7 h8
    exact ⟨h1, h2, h3, h4, h5, h6, h7, h8⟩
  · intro h
    simp [Checked.field, lookup_texts, h.listenAt, h.mode, h.logLevel, h.token, h.domain,
      h.allowedOrigins, h.apiKey, h.uploadDirectory]

theorem eq_lookup_of_optionalText {texts : List (Text × Text)} {name : Text} {least : Nat}
    {result : Option Text} (h : optionalText least (given texts name) = .ok result) :
    result = texts.lookup name := by
  obtain ⟨hnone, hresult⟩ | ⟨value, part, hvalue, hpart, hresult⟩ := Check.optional_eq_ok_iff.1 h
  · rw [given, Option.map_eq_none_iff] at hnone
    rw [hnone, hresult]
  · have hstring := (Check.textOfAtLeast_eq_ok_iff.1 hpart).1
    rw [given, Option.map_eq_some_iff] at hstring
    obtain ⟨text, hlookup, htext⟩ := hstring
    rw [hlookup, hresult, Json.string.inj htext]

theorem defaults_of_ofTexts {texts : List (Text × Text)} {settings : Settings}
    (h : ofTexts texts = .ok settings) : settings.defaults = Task.Defaults.ofTexts texts := by
  have hreads := ofTexts_eq_ok_iff.1 h
  unfold defaults Task.Defaults.ofTexts
  rw [eq_lookup_of_optionalText hreads.token, eq_lookup_of_optionalText hreads.domain]

end Server.Settings

end SlackCourier
