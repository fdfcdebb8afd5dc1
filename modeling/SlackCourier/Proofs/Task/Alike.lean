import SlackCourier.Proofs.Exchange.Alike

/-!
# Tasks that are alike

What a mask hides from each request of a task it hides from the whole run: the token and the
checking of certificates go into the requests, and nowhere else.
-/

namespace SlackCourier

open Session

/-- Whether a mask hides which of two tokens, and which of two ways with certificates, a request
comes from. -/
structure Hides (mask : Request → Request) (a b : Text) (x y : Bool) : Prop where
  start : ∀ (upload : Upload) (length : Nat),
    mask (upload.startRequest a length x) = mask (upload.startRequest b length y)
  bytes : ∀ (ticket : UploadTicket) (content : Text.Bytes),
    mask (Upload.bytesRequest ticket content x) = mask (Upload.bytesRequest ticket content y)
  page : ∀ cursor : Option Text,
    mask (Channel.pageRequest a cursor x) = mask (Channel.pageRequest b cursor y)
  completion : ∀ (upload : Upload) (fileId channelId : Text),
    mask (upload.completionRequest a fileId channelId x) =
      mask (upload.completionRequest b fileId channelId y)
  lookup : ∀ channel ts : Text,
    mask (Message.lookupRequest a channel ts x) = mask (Message.lookupRequest b channel ts y)
  delivery : ∀ (domain : Option Text) (payload : Members),
    Alike mask (Message.deliver a domain payload x) (Message.deliver b domain payload y)

variable {mask : Request → Request} {a b : Text} {x y : Bool}

namespace Channel

theorem alike_readPage (h : Hides mask a b x y) (cursor : Option Text) :
    Alike mask (readPage a x cursor) (readPage b y cursor) := by
  rw [readPage_eq_once, readPage_eq_once]
  exact alike_once (h.page cursor) rfl _

theorem alike_searchWithin (h : Hides mask a b x y) (name : Text) (pages : Nat)
    (cursor : Option Text) :
    Alike mask (searchWithin a name x pages cursor) (searchWithin b name y pages cursor) := by
  induction pages generalizing cursor with
  | zero => exact .refl _
  | succ pages ih =>
    refine (alike_readPage h cursor).bind fun page => ?_
    split
    · exact .refl _
    · exact .refl _
    · exact ih _

theorem alike_find (h : Hides mask a b x y) (name : Text) :
    Alike mask (find a name x) (find b name y) := by
  intro world
  rw [find_eq_searchWithin, find_eq_searchWithin]
  exact alike_searchWithin h name _ none world

end Channel

namespace Upload

theorem alike_steps (h : Hides mask a b x y) (upload : Upload) (channel : Text) :
    Alike mask (upload.steps a channel x) (upload.steps b channel y) := by
  unfold steps
  simp only [call_eq_once, sendFor_eq_once]
  refine (Alike.refl _).bind fun length => ?_
  refine (alike_once (h.start upload length) rfl _).bind fun started => ?_
  refine (Alike.refl _).bind fun ticket => ?_
  refine (Alike.refl _).bind fun content => ?_
  refine (alike_once (h.bytes ticket content) rfl _).bind fun _ => ?_
  refine (Channel.alike_find h channel).bind fun channelId => ?_
  refine (alike_once (h.completion upload ticket.fileId channelId) rfl _).bind fun answer => ?_
  exact .refl _

theorem alike_run (h : Hides mask a b x y) (upload : Upload) (channel : Text) :
    Alike mask (upload.run a channel x) (upload.run b channel y) :=
  (alike_steps h upload channel).mapError _

end Upload

namespace Task

variable {task : Task} {token : Text} {certs : Bool}

theorem alike_runUpload (h : Hides mask task.token token task.insecure (!certs))
    (upload : Upload) (dryRun : Bool) : Alike mask (task.runUpload upload dryRun)
      (runUpload { task with token := token, validateCerts := certs } upload dryRun) := by
  unfold runUpload
  refine (Alike.refl _).bind fun channel => ?_
  cases dryRun with
  | true =>
    simp only [if_true]
    exact .refl _
  | false =>
    simp only [Bool.false_eq_true, if_false]
    exact (Upload.alike_run h upload channel).bind fun answer => .refl _

theorem alike_preview (h : Hides mask task.token token task.insecure (!certs)) (dryRun : Bool) :
    Alike mask (task.preview dryRun)
      (preview { task with token := token, validateCerts := certs } dryRun) := by
  unfold preview
  cases Message.isColor task.color with
  | false =>
    simp only [Bool.not_false, if_true]
    exact .refl _
  | true =>
    cases task.messageId with
    | none => exact .refl _
    | some messageId =>
      simp only [previewEdit, Message.find_eq_once]
      refine (Alike.refl _).bind fun channel => ?_
      refine (alike_once (h.lookup channel messageId) rfl _).bind fun message => ?_
      exact .refl _

theorem alike_runMessage (h : Hides mask task.token token task.insecure (!certs))
    (dryRun : Bool) : Alike mask (task.runMessage dryRun)
      (runMessage { task with token := token, validateCerts := certs } dryRun) := by
  unfold runMessage
  refine (alike_preview h dryRun).bind fun seen => ?_
  cases seen with
  | some outcome => exact .refl _
  | none => exact (h.delivery task.domain task.payload).bind fun answer => .refl _

theorem alike_outcome (h : Hides mask task.token token task.insecure (!certs)) (dryRun : Bool) :
    Alike mask (task.outcome dryRun)
      (outcome { task with token := token, validateCerts := certs } dryRun) := by
  unfold outcome
  cases task.uploadFile with
  | none => exact alike_runMessage h dryRun
  | some upload => exact (alike_runUpload h upload dryRun).mapError _

theorem alike_run (h : Hides mask task.token token task.insecure (!certs)) (dryRun : Bool) :
    Alike mask (task.run dryRun)
      (run { task with token := token, validateCerts := certs } dryRun) := by
  unfold run
  exact (alike_outcome h dryRun).attempt.bind fun outcome => .refl _

end Task

end SlackCourier
