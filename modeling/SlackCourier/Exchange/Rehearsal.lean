import SlackCourier.Exchange.Request
import SlackCourier.Json.Plain
import SlackCourier.Json.Printer
import SlackCourier.Json.Reader
import SlackCourier.Text.Base64

/-!
# Rehearsals

Surroundings written as JSON, so that a run can be rehearsed: a list of answers, one for each
request to come, and a list of files.  What an answer leaves open is filled in: status 200, the
words `OK`, and an empty object as the body.
-/

namespace SlackCourier.Rehearsal

def textAt (entry : Json) (name : Text) : Option Text := (entry.member? name).bind Json.text?

def numberAt (entry : Json) (name : Text) : Option Double :=
  match entry.member? name with
  | some (.number d) => some d
  | _ => none

def readingOf (entry : Json) : Reading :=
  match textAt entry "bodyCrash", textAt entry "bodyError", textAt entry "body" with
  | some reason, _, _ => .crashed reason
  | none, some reason, _ => .broken (some reason)
  | none, none, some body => .text body
  | none, none, none => .text ((entry.member? "json").getD (.object [])).compact

def responseOf (entry : Json) : Response :=
  { status := (numberAt entry "status").getD okStatus
    statusText := (textAt entry "statusText").getD "OK"
    body := readingOf entry }

/-- Where a written reason quotes the URL of the request. -/
def urlMark : Text := "\x7burl\x7d"

def answerOf (entry : Json) : Answer :=
  match textAt entry "throw", entry.member? "throwValue" with
  | some reason, _ => .failure (some (Text.pieces urlMark reason))
  | none, some value => .failure (value.plainText?.map ([·]))
  | none, none => .response (responseOf entry)

/-- A request that is to fail fails for the reason as it is written, with its URL in every place
that is marked for it. -/
theorem settle_answerOf {entry : Json} {reason : Text} (h : textAt entry "throw" = some reason)
    (url : Text) :
    (answerOf entry).settle url = .error (some (Text.replaceAll urlMark url reason)) := by
  unfold answerOf
  rw [h, Answer.settle, Option.map_some, Text.join_pieces (by decide)]

def turnOf (entry : Json) : Turn := ⟨(textAt entry "unlink").toList, answerOf entry⟩

def scriptOf (entries : List Json) : List Turn := entries.map turnOf

def nodeOf (entry : Json) : File.Node :=
  match textAt entry "link", textAt entry "base64" with
  | some target, _ => .link target
  | none, some digits => .file (Text.decodeBase64 digits)
  | none, none =>
    if entry.member? "dir" = some (.bool true) then .directory
    else .file (Text.encodeUtf8 ((textAt entry "text").getD ""))

/-- A tree with the files of a list, seen from a directory that exists in it. -/
def treeOf (directory : File.Path) (entries : List Json) : File.Tree :=
  entries.foldl (fun tree entry =>
    tree.create directory ((textAt entry "path").getD "") (nodeOf entry))
    (File.Tree.makeDirectories default [] directory).1

def itemsAt (document : Json) (name : Text) : List Json :=
  ((document.member? name).bind Json.items?).getD []

def worldOf (directory : File.Path) (document : Json) : World :=
  { script := scriptOf (itemsAt document "responses")
    tree := treeOf directory (itemsAt document "files")
    directory := directory }

end SlackCourier.Rehearsal
