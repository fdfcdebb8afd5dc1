import SlackCourier.Credential
import SlackCourier.Exchange.Reply
import SlackCourier.Text.Query

/-!
# Finding a channel

The id of a channel is looked up by its name in the list of channels, which comes in pages.  The
search stops at the first page that has the channel, or at the page that names no further one.
-/

namespace SlackCourier.Channel

/-- The query for a page of the list, the first one if there is no cursor. -/
def pageQuery (cursor : Option Text) : List (Text × Text) :=
  ("types", "public_channel,private_channel,mpim,im") :: ("limit", "1000") ::
    ("exclude_archived", "true") :: Text.parameter "cursor" cursor

def pageRequest (token : Text) (cursor : Option Text) (insecure : Bool) : Request :=
  { method := .get
    url := Endpoint.channels ++ "?" ++ Text.formEncode (pageQuery cursor)
    headers := [bearer token]
    body := none
    insecure := insecure }

/-- A page of the list: the names and ids of its channels, and the cursor of the next page. -/
structure Page where
  channels : List (Text × Text)
  next : Option Text
  deriving DecidableEq, Repr

def entry? (value : Json) : Option (Text × Text) := do
  let name ← (value.member? "name").bind Json.text?
  let id ← (value.member? "id").bind Json.text?
  return (name, id)

/-- The cursor in an answer; an empty one is none. -/
def cursor? (answer : Members) : Option Text :=
  let metadata := answer.get? "response_metadata"
  Text.given ((metadata.bind (Json.member? "next_cursor")).bind Json.text?)

/-- The entries of an answer; an answer without a list of channels has none. -/
def entries (answer : Members) : List Json :=
  ((answer.get? "channels").bind Json.items?).getD []

def Page.of (answer : Members) : Except Failure Page :=
  if isOk answer then .ok ⟨(entries answer).filterMap entry?, cursor? answer⟩
  else .error (.channelsRefused (errorWord? answer))

def Page.find? (page : Page) (name : Text) : Option Text := page.channels.lookup name

def readPage (token : Text) (insecure : Bool) (cursor : Option Text) :
    Session Fault Page := do
  let answer ← call .listingChannels "conversations.list" (pageRequest token cursor insecure)
  Session.lift ((Page.of answer).mapError .failure)

theorem advances_readPage (token : Text) (insecure : Bool) (cursor : Option Text) :
    (readPage token insecure cursor).Advances :=
  (advances_call _ _ _).bind_lift _

/-- Searches the page at a cursor and those after it.  It ends because each page that is read uses
up an answer. -/
def search (token name : Text) (insecure : Bool) (cursor : Option Text) :
    Session Fault Text := fun world =>
  let listing := readPage token insecure cursor world
  match _hread : listing.result with
  | .error fault => ⟨.error fault, listing.trace, listing.world⟩
  | .ok page =>
    match page.find? name, page.next with
    | some id, _ => ⟨.ok id, listing.trace, listing.world⟩
    | none, none => ⟨.error (.failure (.noChannel name)), listing.trace, listing.world⟩
    | none, some next =>
      let rest := search token name insecure (some next) listing.world
      ⟨rest.result, listing.trace ++ rest.trace, rest.world⟩
termination_by world => world.script.length
decreasing_by exact advances_readPage token insecure cursor _ page _hread

theorem search_eq (token name : Text) (insecure : Bool) (cursor : Option Text) :
    search token name insecure cursor = (do
      let page ← readPage token insecure cursor
      match page.find? name, page.next with
      | some id, _ => return id
      | none, none => Session.fail (.failure (.noChannel name))
      | none, some next => search token name insecure (some next) : Session Fault Text) := by
  funext world
  rw [search]
  dsimp only
  split
  · rename_i fault hread
    exact (Session.bind_error hread).symm
  · rename_i page hread
    rw [Session.bind_ok hread]
    cases page.find? name with
    | some id => simp
    | none => cases page.next <;> simp

def find (token name : Text) (insecure : Bool) : Session Fault Text :=
  search token name insecure none

end SlackCourier.Channel
