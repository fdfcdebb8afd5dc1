import SlackCourier.Json.Same
import SlackCourier.Task.Record

/-!
# Whether an edit would change a message

A task to edit a message is held against the message as it stands.  Six members are compared; the
text is not among them, so a task that changes nothing but the text changes nothing here.
-/

namespace SlackCourier.Task

/-- The members that are compared, with what the task asks for under each. -/
def compared (task : Task) : List (Text × Option Json) :=
  [("icon_url", task.iconUrl.map .string),
    ("icon_emoji", task.iconEmoji.map .string),
    ("link_names", some (.number task.linkNames)),
    ("color", some (.string task.color)),
    ("attachments", task.attachments.map trees),
    ("blocks", task.blocks.map trees)]

/-- Whether a message differs from a task in one of the compared members. -/
def changes (task : Task) (message : Members) : Bool :=
  task.compared.any fun (name, wanted) => !Json.sameOption (message.lookup name) wanted

end SlackCourier.Task
