import SlackCourier.Proofs.Exchange.Turns
import SlackCourier.Proofs.Text.Occurrence

/-!
# Webhooks in the words of a failure

The URL of a webhook holds its token, so a failure to deliver a message shows a fixed text in its
place.  Where there was no response, the URL is taken out of the reason, and what is left cannot
make it up anew.  Where a response turns the message away, its reason is told as it came: the URL
is shown if the other side said it.
-/

namespace SlackCourier

/-- Whether a URL is that of the webhook to which a token leads, with a domain if it needs one. -/
inductive Endpoint.IsWebhook (token : Text) (domain : Option Text) : Text → Prop
  | incoming : classify token = .webhook → IsWebhook token domain (webhook token)
  | legacy {name : Text} : classify token = .legacyWebhook → domain = some name → name ≠ "" →
      IsWebhook token domain (legacyWebhook name token)

theorem slashes_of_webhook {token : Text} (h : classify token = .webhook) :
    2 ≤ token.units.count (Text.unit '/') := by
  unfold classify at h
  split_ifs at h with hslashes hweb
  exact hslashes

theorem slashes_of_legacyWebhook {token : Text} (h : classify token = .legacyWebhook) :
    token.units.count (Text.unit '/') < 2 := by
  unfold classify at h
  split_ifs at h with hslashes hweb
  exact Nat.lt_of_not_le hslashes

namespace Endpoint

/-- What stands behind the number of the label that is shown. -/
def labelRest : Text := "obscured]"

theorem units_obscured :
    obscured.units = webhooks.units ++ Text.unit '[' :: labelRest.units := by decide

theorem units_webhook (token : Text) : (webhook token).units = webhooks.units ++ token.units := rfl

def scheme : Text := "https://"

theorem webhooks_begins_scheme : scheme.units <+: webhooks.units := by decide

/-- What stands in the URL of a webhook of the old kind ahead of the token. -/
def legacyPath : Text := "/services/hooks/incoming-webhook?token"

theorem units_legacyWebhook (domain token : Text) : (legacyWebhook domain token).units =
    scheme.units ++ (domain.units ++ legacyPath.units) ++ Text.unit '=' :: token.units := by
  have hpath : ("/services/hooks/incoming-webhook?token=" : Text).units =
      legacyPath.units ++ [Text.unit '='] := by decide
  unfold legacyWebhook
  simp only [Text.units_append, hpath]
  simp [scheme]

namespace IsWebhook

variable {token : Text} {domain : Option Text} {url : Text}

theorem target (h : IsWebhook token domain url) (edits : Bool) :
    ∃ target, Target.of token edits domain = .ok target ∧ target.url = url ∧
      target.shownUrl = obscured := by
  cases h with
  | incoming hkind =>
    refine ⟨⟨.webhook, webhook token, jsonHeaders⟩, ?_, rfl, rfl⟩
    simp [Target.of, hkind]
  | @legacy name hkind hdomain hname =>
    have hgiven : Text.given domain = some name := Text.given_eq_some_iff.2 ⟨hdomain, hname⟩
    refine ⟨⟨.legacyWebhook, legacyWebhook name token, jsonHeaders⟩, ?_, rfl, rfl⟩
    simp [Target.of, hkind, hgiven]

theorem begins_scheme (h : IsWebhook token domain url) : scheme.units <+: url.units := by
  cases h with
  | incoming hkind =>
    exact webhooks_begins_scheme.trans (List.prefix_append _ _)
  | legacy hkind hdomain hname =>
    rw [units_legacyWebhook, List.append_assoc]
    exact List.prefix_append _ _

theorem exists_head (h : IsWebhook token domain url) :
    ∃ rest, url.units = Text.unit 'h' :: rest := by
  obtain ⟨more, hmore⟩ := h.begins_scheme
  have hhead : scheme.units = Text.unit 'h' :: scheme.units.tail := by decide
  rw [hhead] at hmore
  exact ⟨scheme.units.tail ++ more, hmore.symm⟩

theorem infix_append_iff (h : IsWebhook token domain url) {front : List UInt16}
    (hfront : Text.unit 'h' ∉ front) (back : List UInt16) :
    url.units <:+: front ++ back ↔ url.units <:+: back := by
  obtain ⟨rest, hrest⟩ := h.exists_head
  rw [hrest]
  exact Text.infix_append_iff_of_head hfront

/-- The label does not show the URL, whatever the token is: it has too few slashes for the one kind
of URL, and lacks the equals sign of the other. -/
theorem not_occursIn_label (h : IsWebhook token domain url) :
    ¬ url.OccursIn (" to " ++ obscured ++ ": ") := by
  intro hoccurs
  cases h with
  | incoming hkind =>
    have hslashes := slashes_of_webhook hkind
    have hcount := hoccurs.count_le (Text.unit '/')
    have hwebhooks : webhooks.units.count (Text.unit '/') = 4 := by decide
    have hlabel : (" to " ++ obscured ++ ": " : Text).units.count (Text.unit '/') = 4 := by
      decide
    rw [units_webhook, List.count_append, hwebhooks, hlabel] at hcount
    omega
  | legacy hkind hdomain hname =>
    have hcount := hoccurs.count_le (Text.unit '=')
    have hlabel : (" to " ++ obscured ++ ": " : Text).units.count (Text.unit '=') = 0 := by
      decide
    rw [units_legacyWebhook, List.count_append, List.count_cons_self, hlabel] at hcount
    omega

theorem not_infix_webhooks (h : IsWebhook token domain url) : ¬ url.units <:+: webhooks.units := by
  intro hwithin
  have hlabel : webhooks.units <:+: (" to " ++ obscured ++ ": " : Text).units := by decide
  exact h.not_occursIn_label (hwithin.trans hlabel)

/-- What agrees with the beginning of the label at the end of a URL agrees with it at the beginning
of the URL.  At the end of the old kind it is shorter than two slashes, for it lies in the token. -/
theorem turns (h : IsWebhook token domain url) (piece : List UInt16)
    (hlead : piece <+: webhooks.units) (hend : piece <:+ url.units) : piece <+: url.units := by
  cases h with
  | incoming hkind => exact hlead.trans (List.prefix_append _ _)
  | @legacy name hkind hdomain hname =>
    by_cases hshort : piece.length ≤ scheme.units.length
    · have hpiece := List.prefix_of_prefix_length_le hlead webhooks_begins_scheme hshort
      exact hpiece.trans (IsWebhook.legacy hkind hdomain hname).begins_scheme
    · exfalso
      have hpiece : scheme.units <+: piece :=
        List.prefix_of_prefix_length_le webhooks_begins_scheme hlead (by omega)
      have hslashes : 2 ≤ piece.count (Text.unit '/') := by
        have htwo : scheme.units.count (Text.unit '/') = 2 := by decide
        rw [← htwo]
        exact hpiece.sublist.count_le _
      rw [units_legacyWebhook] at hend
      have hsign : Text.unit '=' ∉ webhooks.units := by decide
      have htoken : piece <:+ token.units :=
        Text.suffix_of_notMem hend fun hmem => hsign (hlead.subset hmem)
      have hcount := htoken.sublist.count_le (Text.unit '/')
      have hfew := slashes_of_legacyWebhook hkind
      omega

/-- The label in place of a URL without an opening bracket keeps the URL from being made up. -/
theorem seals (h : IsWebhook token domain url) (hbracket : Text.unit '[' ∉ url.units) :
    Text.Seals url.units webhooks.units (Text.unit '[') labelRest.units where
  mark_notMem := hbracket
  lead_free := h.not_infix_webhooks
  turns := h.turns
  rest_free := fun back => (h.infix_append_iff (by decide) back).1

theorem bracket_notMem (h : IsWebhook token domain url) (htoken : Text.unit '[' ∉ token.units)
    (hdomain : ∀ name, domain = some name → Text.unit '[' ∉ name.units) :
    Text.unit '[' ∉ url.units := by
  cases h with
  | incoming hkind =>
    have hwebhooks : Text.unit '[' ∉ webhooks.units := by decide
    rw [units_webhook, List.mem_append, not_or]
    exact ⟨hwebhooks, htoken⟩
  | @legacy name hkind hsome hname =>
    have hscheme : Text.unit '[' ∉ scheme.units := by decide
    have hpath : Text.unit '[' ∉ legacyPath.units := by decide
    have hsign : Text.unit '[' ≠ Text.unit '=' := by decide
    simp only [units_legacyWebhook, List.mem_append, List.mem_cons, not_or]
    exact ⟨⟨hscheme, hdomain name hsome, hpath⟩, hsign, htoken⟩

/-- With the URL taken out of the reason, the words of a request without a response lack it. -/
theorem not_occursIn_noResponse (h : IsWebhook token domain url)
    (hbracket : Text.unit '[' ∉ url.units) (reason : Text) :
    ¬ url.OccursIn (Text.replaceAll url obscured reason) ∧
      ¬ url.OccursIn
        (Failure.noResponse obscured (Text.replaceAll url obscured reason)).message := by
  have hseals := h.seals hbracket
  have hreason : ¬ url.units <:+: (Text.replaceAll url obscured reason).units := by
    show ¬ url.units <:+: Text.replaceList url.units obscured.units reason.units
    rw [units_obscured]
    exact hseals.notInfix_replaceList reason.units
  refine ⟨hreason, ?_⟩
  have hrequest : Text.unit 'h' ∉ ("Request to " : Text).units := by decide
  have hfailed : Text.unit 'h' ∉ labelRest.units ++ (" failed: " : Text).units := by decide
  have hshape : (Failure.noResponse obscured (Text.replaceAll url obscured reason)).message.units =
      ("Request to " : Text).units ++ (webhooks.units ++ Text.unit '[' ::
        ((labelRest.units ++ (" failed: " : Text).units) ++
          (Text.replaceAll url obscured reason).units)) := by
    simp only [Failure.message, Text.units_append, units_obscured, List.append_assoc,
      List.cons_append]
  intro hoccurs
  unfold Text.OccursIn at hoccurs
  rw [hshape, h.infix_append_iff hrequest, Text.infix_append_cons_iff hbracket,
    h.infix_append_iff hfailed] at hoccurs
  rcases hoccurs with hlead | hbehind
  · exact hseals.lead_free hlead
  · exact hreason hbehind

theorem not_straddles_label (h : IsWebhook token domain url)
    (hbracket : Text.unit '[' ∉ url.units) (back : Text) :
    ¬ url.Straddles (" to " ++ obscured ++ ": ") back := by
  rintro ⟨head, tail, hhead, -, hurl, hsuffix, -⟩
  obtain ⟨rest, hrest⟩ := h.exists_head
  obtain ⟨first, others, rfl⟩ := List.exists_cons_of_ne_nil hhead
  have hfirst : first = Text.unit 'h' := by
    rw [hrest, List.cons_append] at hurl
    exact (List.cons.inj hurl).1.symm
  have hlabel : (" to " ++ obscured ++ ": " : Text).units =
      (" to " ++ webhooks : Text).units ++ Text.unit '[' :: (labelRest ++ ": ").units := by
    decide
  have hfree : Text.unit '[' ∉ first :: others := by
    intro hmem
    rw [hurl] at hbracket
    exact hbracket (List.mem_append_left tail hmem)
  rw [hlabel] at hsuffix
  have hbehind := Text.suffix_of_notMem hsuffix hfree
  have hletter : Text.unit 'h' ∉ (labelRest ++ ": ").units := by decide
  rw [hfirst] at hbehind
  exact hletter (hbehind.subset List.mem_cons_self)

/-- The words of a message that was turned away show the URL where the reason does, or where it
lies across a line: it begins in the payload, or in the label. -/
theorem occursIn_notDelivered_iff (h : IsWebhook token domain url) {payload : Text}
    (hpayload : ¬ url.OccursIn payload) (reason : Text) (status : Double) :
    url.OccursIn (Failure.notDelivered payload obscured reason status).message ↔
      url.OccursIn reason ∨ url.Straddles payload (" to " ++ obscured ++ ": " ++ reason) ∨
        url.Straddles (" to " ++ obscured ++ ": ") reason := by
  have hsend : Text.unit 'h' ∉ ("failed to send " : Text).units := by decide
  have hshape : (Failure.notDelivered payload obscured reason status).message =
      "failed to send " ++ (payload ++ (" to " ++ obscured ++ ": " ++ reason)) := by
    simp only [Failure.message, Text.append_assoc]
  have hfront : url.OccursIn (Failure.notDelivered payload obscured reason status).message ↔
      url.OccursIn (payload ++ (" to " ++ obscured ++ ": " ++ reason)) := by
    rw [hshape]
    exact h.infix_append_iff hsend _
  have hlabel := h.not_occursIn_label
  rw [hfront, Text.occursIn_append_iff, Text.occursIn_append_iff]
  constructor
  · rintro (hin | (hin | hin | hacross) | hacross)
    · exact absurd hin hpayload
    · exact absurd hin hlabel
    · exact Or.inl hin
    · exact Or.inr (Or.inr hacross)
    · exact Or.inr (Or.inl hacross)
  · rintro (hin | hacross | hacross)
    · exact Or.inr (Or.inl (Or.inr (Or.inl hin)))
    · exact Or.inr (Or.inr hacross)
    · exact Or.inr (Or.inl (Or.inr (Or.inr hacross)))

end IsWebhook

end Endpoint

namespace Json

theorem compactMembers_ends (members : Members) :
    ∃ front, compactMembers members = front ++ [Text.unit '\x7d'] := by
  induction members with
  | nil => exact ⟨[], by simp [compactMembers]⟩
  | cons member members ih =>
    obtain ⟨name, value⟩ := member
    obtain ⟨front, hfront⟩ := ih
    rw [compactMembers, hfront, ← List.append_assoc]
    exact ⟨_, rfl⟩

theorem compact_object_ends (members : Members) :
    ∃ front, (Json.object members).compact.units = front ++ [Text.unit '\x7d'] := by
  unfold compact
  cases members with
  | nil => exact ⟨[Text.unit '\x7b'], by decide⟩
  | cons member members =>
    obtain ⟨name, value⟩ := member
    obtain ⟨front, hfront⟩ := compactMembers_ends members
    rw [compactUnits, hfront, ← List.append_assoc]
    exact ⟨_, rfl⟩

theorem not_straddles_object {part : Text} (hbrace : Text.unit '\x7d' ∉ part.units)
    (members : Members) (back : Text) : ¬ part.Straddles (Json.object members).compact back := by
  obtain ⟨front, hfront⟩ := compact_object_ends members
  exact Text.not_straddles_of_ends hfront hbrace back

end Json

namespace Message

theorem deliver_of_webhook {token : Text} {domain : Option Text} {url : Text}
    (h : Endpoint.IsWebhook token domain url) (payload : Members) (insecure : Bool)
    (world : World) : ∃ target : Target, target.url = url ∧ target.shownUrl = Endpoint.obscured ∧
      (deliver token domain payload insecure world).calls.map (·.url) = [url] ∧
      (deliver token domain payload insecure world).result =
        readDelivery target (Json.object payload).compact (world.answer url).1 := by
  obtain ⟨target, htarget, rfl, hshown⟩ := h.target (payload.get? "ts").isSome
  rw [deliver_of_target htarget]
  exact ⟨target, rfl, hshown, rfl, rfl⟩

/-- A post to a webhook that gets no response fails without its URL, whatever the reason says. -/
theorem unanswered_hides_url {token : Text} {domain : Option Text} {url : Text}
    (hurl : Endpoint.IsWebhook token domain url) (htoken : Text.unit '[' ∉ token.units)
    (hdomain : ∀ name, domain = some name → Text.unit '[' ∉ name.units) (payload : Members)
    (insecure : Bool) {world : World} {reason : Text}
    (hmet : (world.answer url).1 = .error (some reason)) :
    let ending := deliver token domain payload insecure world
    let failure := Failure.noResponse Endpoint.obscured
      (Text.replaceAll url Endpoint.obscured reason)
    ending.calls.map (·.url) = [url] ∧ ending.result = .error (.failure failure) ∧
      failure.code = .transport ∧ failure.status? = some Failure.noStatus ∧
      ¬ url.OccursIn (Text.replaceAll url Endpoint.obscured reason) ∧
      ¬ url.OccursIn failure.message := by
  intro ending failure
  obtain ⟨target, htarget, hshown, hcalls, hresult⟩ :=
    deliver_of_webhook hurl payload insecure world
  have hbracket := hurl.bracket_notMem htoken hdomain
  obtain ⟨hreason, hmessage⟩ := hurl.not_occursIn_noResponse hbracket reason
  refine ⟨hcalls, ?_, rfl, rfl, hreason, hmessage⟩
  rw [hresult, hmet]
  simp only [readDelivery, received, Except.bind, hshown, htarget, failure]

/-- A reason that quotes the URL right behind a copy of it without its last letter: the copy and the
first letter of the quote make up the URL, and the label takes their place. -/
theorem unanswered_hides_url_overlapping :
    let url := Endpoint.legacyWebhook "bad domain.slack.com" "tokenh"
    let reason := Endpoint.legacyWebhook "bad domain.slack.com" "token" ++ url
    let world : World := ⟨[⟨[], .failure (some [reason])⟩], default, []⟩
    url.OccursIn reason ∧
    (deliver "tokenh" (some "bad domain.slack.com") [] false world).result =
      .error (.failure (.noResponse Endpoint.obscured
        (Text.replaceAll url Endpoint.obscured reason))) ∧
    ¬ url.OccursIn (Text.replaceAll url Endpoint.obscured reason) := by
  intro url reason world
  have hurl : Endpoint.IsWebhook "tokenh" (some "bad domain.slack.com") url :=
    .legacy (by decide) rfl (by decide)
  have hbrackets : ∀ name, some ("bad domain.slack.com" : Text) = some name →
      Text.unit '[' ∉ name.units := by
    rintro name ⟨⟩
    decide
  have hmet : (world.answer url).1 = .error (some reason) := rfl
  obtain ⟨-, hresult, -, -, hreason, -⟩ :=
    unanswered_hides_url hurl (by decide) hbrackets [] false hmet
  exact ⟨by decide +kernel, hresult, hreason⟩

theorem result_of_rejected {token : Text} {domain : Option Text} {url : Text}
    (hurl : Endpoint.IsWebhook token domain url) (payload : Members) (insecure : Bool)
    {world : World} {response : Response} {reason : Text} (hanswer : world.Answers 0 response)
    (hstatus : response.status ≠ okStatus) (hreason : rejection response = .ok reason) :
    (deliver token domain payload insecure world).result = .error (.failure
      (.notDelivered (Json.object payload).compact Endpoint.obscured reason response.status)) := by
  obtain ⟨target, -, hshown, -, hresult⟩ := deliver_of_webhook hurl payload insecure world
  have hmet : (world.answer url).1 = .ok response := World.answer_eq_ok_iff.2 hanswer
  rw [hresult, hmet]
  simp only [readDelivery, received, Except.bind, outcomeAt, if_neg hstatus, hreason, hshown]

theorem exists_rejection {response : Response} (h : ∀ reason, response.body ≠ .crashed reason) :
    ∃ reason, rejection response = .ok reason := by
  unfold rejection
  cases hread : response.body with
  | text body => exact ⟨_, rfl⟩
  | broken reason => exact ⟨_, rfl⟩
  | crashed reason => exact absurd hread (h reason)

/-- The words of a message that was turned away show the URL of its webhook where the reason does.
Otherwise they show it only where the URL begins in the payload or in the label and runs on, which
takes a brace or a bracket in it. -/
theorem rejected_shows_url_iff {token : Text} {domain : Option Text} {url : Text}
    (hurl : Endpoint.IsWebhook token domain url) {payload : Members}
    (hpayload : ¬ url.OccursIn (Json.object payload).compact) (insecure : Bool) {world : World}
    {response : Response} (hanswer : world.Answers 0 response)
    (hstatus : response.status ≠ okStatus) (hbody : ∀ reason, response.body ≠ .crashed reason) :
    let ending := deliver token domain payload insecure world
    ending.calls.map (·.url) = [url] ∧ ∃ failure reason, rejection response = .ok reason ∧
      ending.result = .error (.failure failure) ∧ failure.code = .transport ∧
      failure.status? = some response.status ∧
      (url.OccursIn failure.message ↔ url.OccursIn reason ∨
        url.Straddles (Json.object payload).compact
          (" to " ++ Endpoint.obscured ++ ": " ++ reason) ∨
        url.Straddles (" to " ++ Endpoint.obscured ++ ": ") reason) ∧
      (Text.unit '\x7d' ∉ url.units → Text.unit '[' ∉ url.units →
        (url.OccursIn failure.message ↔ url.OccursIn reason)) := by
  intro ending
  obtain ⟨-, -, -, hcalls, -⟩ := deliver_of_webhook hurl payload insecure world
  obtain ⟨reason, hreason⟩ := exists_rejection hbody
  have hresult := result_of_rejected hurl payload insecure hanswer hstatus hreason
  have hshows := hurl.occursIn_notDelivered_iff hpayload reason response.status
  refine ⟨hcalls, _, reason, hreason, hresult, rfl, rfl, hshows, ?_⟩
  intro hbrace hbracket
  have hahead := Json.not_straddles_object hbrace payload
    (" to " ++ Endpoint.obscured ++ ": " ++ reason)
  have hlabel := hurl.not_straddles_label hbracket reason
  rw [hshows]
  simp only [hahead, hlabel, or_false]

def helloPayload : Members := [("text", .string "hi")]

/-- Surroundings in which one request is answered with status 404 and a body. -/
def notFoundWith (body : Text) : World :=
  ⟨[⟨[], .response ⟨Double.ofNat 404, "Not Found", .text body⟩⟩], default, []⟩

/-- A reason that does not speak of the URL leaves it out of the words. -/
theorem rejected_shows_url_iff_of_notFound :
    let url := Endpoint.webhook "T/B/X"
    ∃ failure, (deliver "T/B/X" none helloPayload false (notFoundWith "no_team")).result =
      .error (.failure failure) ∧ failure.code = .transport ∧ ¬ url.OccursIn failure.message := by
  intro url
  have hurl : Endpoint.IsWebhook "T/B/X" none url := .incoming (by decide)
  have hanswer : (notFoundWith "no_team").Answers 0
      ⟨Double.ofNat 404, "Not Found", .text "no_team"⟩ := ⟨[], rfl⟩
  have hpayload : ¬ url.OccursIn (Json.object helloPayload).compact := by decide +kernel
  obtain ⟨-, failure, reason, hreason, hresult, hcode, -, -, hshows⟩ :=
    rejected_shows_url_iff hurl hpayload false hanswer (by decide) (by simp)
  obtain rfl := Except.ok.inj hreason
  refine ⟨failure, hresult, hcode, ?_⟩
  rw [hshows (by decide +kernel) (by decide +kernel)]
  decide +kernel

/-- A body that speaks of the URL brings it into the words. -/
theorem url_shown_by_rejection :
    ¬ ∀ (token : Text) (domain : Option Text) (url : Text) (payload : Members) (insecure : Bool)
      (world : World) (response : Response) (failure : Failure),
      Endpoint.IsWebhook token domain url → ¬ url.OccursIn (Json.object payload).compact →
      world.Answers 0 response → response.status ≠ okStatus →
      (∀ reason, response.body ≠ .crashed reason) →
      (deliver token domain payload insecure world).result = .error (.failure failure) →
      ¬ url.OccursIn failure.message := by
  intro hclaim
  have hurl : Endpoint.IsWebhook "T/B/X" none (Endpoint.webhook "T/B/X") := .incoming (by decide)
  have hanswer : (notFoundWith (Endpoint.webhook "T/B/X" ++ ": no_service")).Answers 0
      ⟨Double.ofNat 404, "Not Found", .text (Endpoint.webhook "T/B/X" ++ ": no_service")⟩ :=
    ⟨[], rfl⟩
  have hreason : rejection
      ⟨Double.ofNat 404, "Not Found", .text (Endpoint.webhook "T/B/X" ++ ": no_service")⟩ =
        .ok (Endpoint.webhook "T/B/X" ++ ": no_service") := rfl
  have hresult := result_of_rejected hurl helloPayload false hanswer (by decide) hreason
  have hhidden := hclaim _ _ _ helloPayload false _ _ _ hurl (by decide +kernel) hanswer
    (by decide) (by simp) hresult
  exact hhidden (by decide +kernel)

end Message

end SlackCourier
