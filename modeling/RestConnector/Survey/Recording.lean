import RestConnector.Survey.Network

/-!
# Recordings

A *recording* is a JSON document that says what a network answers: under `routes` a reply, or a list of
replies to be used one after another, for each of some URLs, and under `default` the reply of every
other URL. A reply is an object with the `status`, `body` and `headers` of a response, or with the
message of a failure under `timeout` or `refused`. What is missing has its default value.
-/

namespace RestConnector.Survey.Recording

open RestConnector.Json

/-- The text of a member of an object. -/
def text? (key : String) (value : Value) : Option String :=
  match value.member? key with
  | some (.string text) => some text
  | _ => none

/-- The headers of a response. -/
def headers (value : Value) : List (String × String) :=
  match value.member? "headers" with
  | some (.object members) => members.filterMap fun member =>
      match member.2 with
      | .string text => some (member.1, text)
      | _ => none
  | _ => []

/-- The status of a response. -/
def status (value : Value) : Int :=
  match value.member? "status" with
  | some (.integer status) => status
  | _ => 200

/-- One reply. -/
def reply (value : Value) : Reply :=
  match text? "timeout" value, text? "refused" value with
  | some message, _ => .timedOut message
  | none, some message => .refused message
  | none, none => .answered
      { status := status value, body := (text? "body" value).getD "", headers := headers value }

/-- The replies of one URL. -/
def replies : Value → List Reply
  | .array items => items.map reply
  | value => [reply value]

/-- The network that a recording describes. -/
def script (value : Value) : Script :=
  let routes := match value.member? "routes" with
    | some (.object members) => members.map fun member => (member.1, replies member.2)
    | _ => []
  match value.member? "default" with
  | some otherwise => { routes, otherwise := reply otherwise }
  | none => { routes }

end RestConnector.Survey.Recording
