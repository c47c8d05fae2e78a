import ChatArchive.Json.Decode
import ChatArchive.Operation.Failure

/-!
# Replies of the page

What the page publishes: the state that is polled, and in it the result at the end.  A value may
be handed over as it is or as its text.
-/

namespace ChatArchive.Operation

open Json

/-- Decode a value that may have been handed over as its text. -/
def decodeReply {α : Type} (d : Decoder α) (j : Json) : Except Failure α :=
  let outcome := match j with
    | .str text => decodeText d text
    | j => decodeValue d j
  match outcome with
  | .ok a => .ok a
  | .error f => .error (.payload f)

/-- What a poll finds. -/
structure PollState where
  count : Nat
  done : Bool
  result : Option Json

/-- A state without a count counts 0, and one that does not say so is not done. -/
def PollState.decoder : Decoder PollState :=
  Decoder.record "PollState"
    (.cons (.defaulted "progress" Decoder.nat64 0)
      (.cons (.defaulted "done" Decoder.bool false)
        (.cons (.optional "result" Decoder.value) .nil)))
    fun (count, done, result, _) => ⟨count, done, result⟩

/-- The result of a script. -/
structure ScriptResult where
  success : Bool
  error : Option String
  data : Option Json

namespace ScriptResult

/-- A result has to say whether the script succeeded. -/
def decoder : Decoder ScriptResult :=
  Decoder.record "ScriptResult"
    (.cons (.required "success" Decoder.bool)
      (.cons (.optional "error" Decoder.string)
        (.cons (.optional "data" Decoder.value) .nil)))
    fun (success, error, data, _) => ⟨success, error, data⟩

/-- The error of a script that was refused by the service. -/
def loginExpiredCode : String := "auth_expired"

/-- The data of a result; missing data are null. -/
def dataAs {α : Type} (r : ScriptResult) (d : Decoder α) : Except Failure α :=
  if r.success then decodeReply d (r.data.getD .null)
  else
    let error := r.error.getD "unknown error"
    .error (if error = loginExpiredCode then .loginExpired else .script error)

end ScriptResult

end ChatArchive.Operation
