import ChatArchive.Json.Decode

/-!
# Conversations in full

What the service tells about a single conversation.  Nearly everything may be missing.
-/

namespace ChatArchive

open Json

/-- A part of a message. -/
structure ContentBlock where
  kind : Option String
  text : Option String

/-- A message.  Its text is given at once or in blocks. -/
structure ChatMessage where
  id : Option String
  sender : Option String
  text : Option String
  content : List ContentBlock
  createdAt : Option String
  attachments : List Json

/-- A conversation with its messages. -/
structure ConversationDetail where
  id : String
  name : Option String
  createdAt : Option String
  updatedAt : Option String
  model : Option String
  messages : List ChatMessage

namespace ContentBlock

/-- A block of a message; its kind and its text may be left out. -/
def decoder : Decoder ContentBlock :=
  Decoder.record "ContentBlock"
    (.cons (.optional "type" Decoder.string) (.cons (.optional "text" Decoder.string) .nil))
    fun (kind, text, _) => ⟨kind, text⟩

/-- Does the block hold text?  One without a kind does. -/
def isText (b : ContentBlock) : Bool := b.kind.all fun k => k == "text"

/-- A block as it is written. -/
def toNode (b : ContentBlock) : Node :=
  .obj [("type", .ofOption .str b.kind), ("text", .ofOption .str b.text)]

end ContentBlock

namespace ChatMessage

/-- A message of the service, of which everything may be left out. -/
def decoder : Decoder ChatMessage :=
  Decoder.record "ChatMessage"
    (.cons (.optional "uuid" Decoder.string)
      (.cons (.optional "sender" Decoder.string)
        (.cons (.optional "text" Decoder.string)
          (.cons (.defaulted "content" ContentBlock.decoder.list [])
            (.cons (.optional "created_at" Decoder.string)
              (.cons (.defaulted "attachments" Decoder.value.list []) .nil))))))
    fun (id, sender, text, content, createdAt, attachments, _) =>
      ⟨id, sender, text, content, createdAt, attachments⟩

/-- The text of a message: the one given at once unless it is empty, else the blocks of text on
lines of their own. -/
def fullText (m : ChatMessage) : String :=
  match m.text.filter fun t => t != "" with
  | some t => t
  | none => Text.join "\n" ((m.content.filter ContentBlock.isText).filterMap (·.text))

/-- A message as it is written. -/
def toNode (m : ChatMessage) : Node :=
  .obj [("uuid", .ofOption .str m.id), ("sender", .ofOption .str m.sender),
    ("text", .ofOption .str m.text), ("content", .arr (m.content.map (·.toNode))),
    ("created_at", .ofOption .str m.createdAt),
    ("attachments", .arr (m.attachments.map Json.toNode))]

end ChatMessage

namespace ConversationDetail

/-- A conversation of the service, which has to have an identifier. -/
def decoder : Decoder ConversationDetail :=
  Decoder.record "ConversationDetail"
    (.cons (.required "uuid" Decoder.string)
      (.cons (.optional "name" Decoder.string)
        (.cons (.optional "created_at" Decoder.string)
          (.cons (.optional "updated_at" Decoder.string)
            (.cons (.optional "model" Decoder.string)
              (.cons (.defaulted "chat_messages" ChatMessage.decoder.list []) .nil))))))
    fun (id, name, createdAt, updatedAt, model, messages, _) =>
      ⟨id, name, createdAt, updatedAt, model, messages⟩

end ConversationDetail

end ChatArchive
