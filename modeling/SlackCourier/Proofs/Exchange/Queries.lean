import SlackCourier.Proofs.Channel.FirstMatch
import SlackCourier.Proofs.Message.Lookup
import SlackCourier.Proofs.Task.Requests
import SlackCourier.Proofs.Text.Query

/-!
# What the queries ask for

A message is looked up, a page of channels is listed and an upload is begun by a request with a
query.  Whoever reads the query finds the parameters that were meant, in their order, whatever
characters the values have: no value can add a parameter, drop one or change another, and none can
lead to another address.
-/

namespace SlackCourier

open Session

/-- Whether a request asks an endpoint for parameters: that is what its URL has ahead of the query,
and these are the names and values that are read from the query. -/
structure Request.Asks (q : Request) (endpoint : Text) (parameters : List (Text × Text)) :
    Prop where
  address : q.url.beforeQuery = endpoint
  query : Text.formDecode q.url.queryOf = parameters

namespace Request

variable {q r : Request} {endpoint : Text} {parameters others : List (Text × Text)}

theorem Asks.parameters_eq (hq : q.Asks endpoint parameters) (hr : r.Asks endpoint others)
    (h : q.url = r.url) : parameters = others := by
  rw [← hq.query, ← hr.query, h]

theorem asks_of_url {address : List Char} (hquestion : '?' ∉ address) (hfragment : '#' ∉ address)
    (hwhole : ∀ pair ∈ parameters, pair.1.IsWhole ∧ pair.2.IsWhole)
    (hurl : q.url = Text.ofChars address ++ "?" ++ Text.formEncode parameters) :
    q.Asks (Text.ofChars address) parameters := by
  obtain ⟨haddress, hquery⟩ := Text.cut_of_query hquestion hfragment parameters
  constructor
  · rw [hurl, haddress]
  · rw [hurl, hquery, Text.formDecode_formEncode_of_whole hwhole]

end Request

theorem eq_of_toString_eq {m n : Nat} (h : toString m = toString n) : m = n := by
  rw [Nat.toString_eq_ofList_toDigits, Nat.toString_eq_ofList_toDigits, String.ofList_inj] at h
  rw [← Nat.ofDigitChars_ten_toDigits (n := m), h, Nat.ofDigitChars_ten_toDigits]

namespace Text

variable {name value : Text} {part other : Option Text}

theorem mem_parameter {pair : Text × Text} :
    pair ∈ parameter name part ↔ ∃ value ∈ part, pair = (name, value) := by
  cases part <;> simp [parameter]

theorem parameter_inj : parameter name part = parameter name other ↔ part = other := by
  cases part <;> cases other <;> simp [parameter]

theorem parameter_append_inj {more rest : List (Text × Text)} (hmore : ∀ pair ∈ more, pair.1 ≠ name)
    (hrest : ∀ pair ∈ rest, pair.1 ≠ name)
    (h : parameter name part ++ more = parameter name other ++ rest) :
    part = other ∧ more = rest := by
  cases part with
  | none =>
    cases other with
    | none => exact ⟨rfl, h⟩
    | some value =>
      have hmem : (name, value) ∈ more := by
        rw [show more = (name, value) :: rest from h]
        exact List.mem_cons_self
      exact absurd rfl (hmore _ hmem)
  | some value =>
    cases other with
    | none =>
      have hmem : (name, value) ∈ rest := by
        rw [← show (name, value) :: more = rest from h]
        exact List.mem_cons_self
      exact absurd rfl (hrest _ hmem)
    | some given =>
      obtain ⟨hpair, hmore⟩ := List.cons.inj h
      exact ⟨congrArg some (Prod.mk.inj hpair).2, hmore⟩

end Text

theorem Session.head?_calls_once_bind {α β : Type} (r : Request)
    (read : Except (Option Text) Response → Except Fault α) (next : α → Session Fault β)
    (world : World) : ((once r read >>= next) world).calls.head? = some r := by
  cases hread : (once r read world).result with
  | error fault =>
    rw [calls_bind_of_error hread]
    rfl
  | ok value =>
    rw [calls_bind_of_ok hread]
    rfl

namespace Message

variable {channel ts : Text}

theorem asks_lookupRequest (token : Text) (insecure : Bool) (hchannel : channel.IsWhole)
    (hts : ts.IsWhole) :
    (lookupRequest token channel ts insecure).Asks Endpoint.history (lookupQuery channel ts) := by
  refine Request.asks_of_url (by decide) (by decide) ?_ rfl
  intro pair hpair
  simp only [lookupQuery, List.mem_cons, List.not_mem_nil, or_false] at hpair
  rcases hpair with rfl | rfl | rfl | rfl
  · exact ⟨Text.isWhole_ofString _, hchannel⟩
  · exact ⟨Text.isWhole_ofString _, hts⟩
  · exact ⟨Text.isWhole_ofString _, Text.isWhole_ofString _⟩
  · exact ⟨Text.isWhole_ofString _, Text.isWhole_ofString _⟩

end Message

namespace Channel

variable {cursor : Option Text}

theorem asks_pageRequest (token : Text) (insecure : Bool)
    (hcursor : ∀ text ∈ cursor, text.IsWhole) :
    (pageRequest token cursor insecure).Asks Endpoint.channels (pageQuery cursor) := by
  refine Request.asks_of_url (by decide) (by decide) ?_ rfl
  intro pair hpair
  simp only [pageQuery, List.mem_cons, Text.mem_parameter] at hpair
  rcases hpair with rfl | rfl | rfl | ⟨text, htext, rfl⟩
  · exact ⟨Text.isWhole_ofString _, Text.isWhole_ofString _⟩
  · exact ⟨Text.isWhole_ofString _, Text.isWhole_ofString _⟩
  · exact ⟨Text.isWhole_ofString _, Text.isWhole_ofString _⟩
  · exact ⟨Text.isWhole_ofString _, hcursor text htext⟩

theorem pageQuery_inj {cursor other : Option Text} :
    pageQuery cursor = pageQuery other ↔ cursor = other := by
  simp [pageQuery, Text.parameter_inj]

end Channel

namespace Upload

/-- Whether everything that is said of a file when its upload begins is whole. -/
structure SaysWhole (upload : Upload) : Prop where
  name : upload.shownName.IsWhole
  altText : ∀ text ∈ upload.altText, text.IsWhole
  snippetType : ∀ text ∈ upload.snippetType, text.IsWhole

variable {upload other : Upload}

theorem asks_startRequest (token : Text) (length : Nat) (insecure : Bool)
    (h : upload.SaysWhole) :
    (upload.startRequest token length insecure).Asks Endpoint.startUpload
      (upload.startQuery length) := by
  refine Request.asks_of_url (by decide) (by decide) ?_ rfl
  intro pair hpair
  simp only [startQuery, List.mem_cons, List.mem_append, Text.mem_parameter] at hpair
  rcases hpair with rfl | rfl | ⟨text, htext, rfl⟩ | ⟨text, htext, rfl⟩
  · exact ⟨Text.isWhole_ofString _, h.name⟩
  · exact ⟨Text.isWhole_ofString _, Text.isWhole_ofString _⟩
  · exact ⟨Text.isWhole_ofString _, h.altText text (Text.eq_of_given htext)⟩
  · exact ⟨Text.isWhole_ofString _, h.snippetType text (Text.eq_of_given htext)⟩

theorem startQuery_inj {length size : Nat}
    (h : upload.startQuery length = other.startQuery size) :
    upload.shownName = other.shownName ∧ length = size ∧
      Text.given upload.altText = Text.given other.altText ∧
      Text.given upload.snippetType = Text.given other.snippetType := by
  obtain ⟨hname, hrest⟩ := List.cons.inj h
  obtain ⟨hlength, hoptional⟩ := List.cons.inj hrest
  have hapart : ∀ (value : Option Text), ∀ pair ∈ Text.parameter "snippet_type" value,
      pair.1 ≠ "alt_text" := by
    intro value pair hpair
    obtain ⟨text, -, rfl⟩ := Text.mem_parameter.1 hpair
    simp
  obtain ⟨halt, hsnippet⟩ := Text.parameter_append_inj (hapart _) (hapart _) hoptional
  refine ⟨(Prod.mk.inj hname).2, ?_, halt, Text.parameter_inj.1 hsnippet⟩
  exact eq_of_toString_eq (Text.ofString_inj.1 (Prod.mk.inj hlength).2)

/-- The first request of an upload is the one that begins it, sent if the file has a size. -/
theorem head?_calls_run (upload : Upload) (token channel : Text) (insecure : Bool)
    (world : World) : (upload.run token channel insecure world).calls.head? =
      (world.tree.size world.directory upload.path).toOption.map
        (upload.startRequest token · insecure) := by
  show (upload.steps token channel insecure world).calls.head? = _
  unfold steps
  simp only [call_eq_once, sendFor_eq_once]
  have hmeasure := congrArg Ending.result (measure_apply upload.path world)
  cases hsize : world.tree.size world.directory upload.path with
  | error reason =>
    rw [hsize] at hmeasure
    rw [calls_bind_of_error hmeasure, calls_measure]
    rfl
  | ok length =>
    rw [hsize] at hmeasure
    rw [calls_bind_of_ok hmeasure, calls_measure, world_measure]
    exact head?_calls_once_bind ..

end Upload

/-- Whoever reads the query of a request finds what was meant, whatever the values are.  A lookup is
one request for the channel and the time; a search asks for one page after the other, with the
cursor that the page before named; an upload begins with the name and the length of the file, and
with what is said of it.  Different values make different URLs. -/
theorem queries_read_back (token : Text) (insecure : Bool) :
    ((∀ (channel ts : Text) (world : World),
        (Message.find token channel ts insecure world).calls =
          [Message.lookupRequest token channel ts insecure]) ∧
      (∀ channel ts : Text, channel.IsWhole → ts.IsWhole →
        (Message.lookupRequest token channel ts insecure).Asks
          "https://slack.com/api/conversations.history"
          [("channel", channel), ("ts", ts), ("limit", "1"), ("inclusive", "true")]) ∧
      ∀ channel ts other time : Text, channel.IsWhole → ts.IsWhole → other.IsWhole →
        time.IsWhole → (Message.lookupRequest token channel ts insecure).url =
          (Message.lookupRequest token other time insecure).url → channel = other ∧ ts = time) ∧
    ((∀ (name : Text) (world : World), (Channel.find token name insecure world).calls =
        (Channel.asked name (Channel.leadingPages world.script)).map
          (Channel.pageRequest token · insecure)) ∧
      (∀ cursor : Option Text, (∀ text ∈ cursor, text.IsWhole) →
        (Channel.pageRequest token cursor insecure).Asks "https://slack.com/api/conversations.list"
          (("types", "public_channel,private_channel,mpim,im") :: ("limit", "1000") ::
            ("exclude_archived", "true") :: Text.parameter "cursor" cursor)) ∧
      ∀ cursor other : Option Text, (∀ text ∈ cursor, text.IsWhole) →
        (∀ text ∈ other, text.IsWhole) → (Channel.pageRequest token cursor insecure).url =
          (Channel.pageRequest token other insecure).url → cursor = other) ∧
    (∀ (upload : Upload) (channel : Text) (world : World),
      (upload.run token channel insecure world).calls.head? =
        (world.tree.size world.directory upload.path).toOption.map
          (upload.startRequest token · insecure)) ∧
    (∀ (upload : Upload) (length : Nat), upload.SaysWhole →
      (upload.startRequest token length insecure).Asks
        "https://slack.com/api/files.getUploadURLExternal"
        (("filename", upload.shownName) :: ("length", toString length) ::
          (Text.parameter "alt_text" (Text.given upload.altText) ++
            Text.parameter "snippet_type" (Text.given upload.snippetType)))) ∧
    ∀ (upload other : Upload) (length size : Nat), upload.SaysWhole → other.SaysWhole →
      (upload.startRequest token length insecure).url =
        (other.startRequest token size insecure).url →
      upload.shownName = other.shownName ∧ length = size ∧
        Text.given upload.altText = Text.given other.altText ∧
        Text.given upload.snippetType = Text.given other.snippetType := by
  refine ⟨⟨?_, ?_, ?_⟩, ⟨?_, ?_, ?_⟩, ?_, ?_, ?_⟩
  · intro channel ts world
    rw [Message.find_apply]
    rfl
  · exact fun channel ts => Message.asks_lookupRequest token insecure
  · intro channel ts other time hchannel hts hother htime hurl
    have hsame := (Message.asks_lookupRequest token insecure hchannel hts).parameters_eq
      (Message.asks_lookupRequest token insecure hother htime) hurl
    simpa [Message.lookupQuery] using hsame
  · exact fun name world => (Channel.firstMatch_find token name insecure world).calls
  · exact fun cursor => Channel.asks_pageRequest token insecure
  · intro cursor other hcursor hother hurl
    exact Channel.pageQuery_inj.1 ((Channel.asks_pageRequest token insecure hcursor).parameters_eq
      (Channel.asks_pageRequest token insecure hother) hurl)
  · exact fun upload channel world => upload.head?_calls_run token channel insecure world
  · exact fun upload length => Upload.asks_startRequest token length insecure
  · intro upload other length size hupload hother hurl
    exact Upload.startQuery_inj ((Upload.asks_startRequest token length insecure
      hupload).parameters_eq (Upload.asks_startRequest token size insecure hother) hurl)

/-- A file with a name that reads like a query. -/
def forgingUpload : Upload :=
  { path := "/srv/notes.txt"
    filename := some "a=b&length=0&alt_text=#"
    altText := some ""
    snippetType := some "100 % café?+"
    initialComment := none
    threadTs := none
    title := none }

theorem forgingUpload_saysWhole : forgingUpload.SaysWhole := by
  constructor <;> decide

theorem queries_read_back_of_forging :
    (Message.lookupRequest "xoxb-1" "C1&ts=9#?" "1.5+2 %41" false).Asks
      "https://slack.com/api/conversations.history"
      [("channel", "C1&ts=9#?"), ("ts", "1.5+2 %41"), ("limit", "1"), ("inclusive", "true")] ∧
    (Channel.pageRequest "xoxb-1" (some "dG9r&limit=1") false).Asks
      "https://slack.com/api/conversations.list"
      [("types", "public_channel,private_channel,mpim,im"), ("limit", "1000"),
        ("exclude_archived", "true"), ("cursor", "dG9r&limit=1")] ∧
    (forgingUpload.startRequest "xoxb-1" 12 false).Asks
      "https://slack.com/api/files.getUploadURLExternal"
      [("filename", "a=b&length=0&alt_text=#"), ("length", "12"),
        ("snippet_type", "100 % café?+")] ∧
    (Message.lookupRequest "xoxb-1" "C1&ts=9" "1" false).url ≠
      (Message.lookupRequest "xoxb-1" "C1" "9&ts=1" false).url ∧
    (Channel.pageRequest "xoxb-1" (some "dG9r&limit=1") false).url ≠
      (Channel.pageRequest "xoxb-1" (some "dG9r") false).url ∧
    (forgingUpload.startRequest "xoxb-1" 12 false).url ≠
      ({ forgingUpload with filename := some "a=b" }.startRequest "xoxb-1" 12 false).url := by
  obtain ⟨⟨-, hlookup, hmessages⟩, ⟨-, hpage, hpages⟩, -, hstart, huploads⟩ :=
    queries_read_back "xoxb-1" false
  have hwhole (text : String) : (text : Text).IsWhole := Text.isWhole_ofString text
  have hcursor (text : String) : ∀ cursor ∈ some (text : Text), cursor.IsWhole := by
    rintro _ ⟨⟩
    exact hwhole text
  have hupload := forgingUpload_saysWhole
  have hother : { forgingUpload with filename := some "a=b" }.SaysWhole := by
    constructor <;> decide
  refine ⟨hlookup _ _ (hwhole _) (hwhole _), hpage _ (hcursor _), hstart _ 12 hupload, ?_, ?_, ?_⟩
  · intro hurl
    have hsame := hmessages _ _ _ _ (hwhole _) (hwhole _) (hwhole _) (hwhole _) hurl
    exact absurd hsame.1 (by decide)
  · intro hurl
    exact absurd (hpages _ _ (hcursor _) (hcursor _) hurl) (by decide)
  · intro hurl
    exact absurd (huploads _ _ 12 12 hupload hother hurl).1 (by decide)

end SlackCourier
