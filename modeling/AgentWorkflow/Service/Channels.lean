/-
The channels that notifications are sent to.

* `Channels.slack`, `Channels.discord` — a channel of each of the two services.
* `Channels.ofVariables` — the channels whose tokens and places are given by
  variables; of each service that is left out a note is taken.
-/
import AgentWorkflow.Http.Client
import AgentWorkflow.Session

namespace AgentWorkflow.Channels

/-- How the service reports that it takes a message. -/
def slackVerdict (reply : Json) : Outcome Unit :=
  if (reply.member? "ok").bind Json.bool? == some true then .ok ()
  else
    let reason := ((reply.member? "error").bind Json.text?).getD "unknown error"
    .error (Failure.stated ("slack rejected message: " ++ reason))

def slack (address token channel : String) : Channel where
  name := "slack"
  send message := do
    let address := Http.trimSlashes address ++ "/chat.postMessage"
    let body : Json := .object [("channel", .text channel), ("text", .text message)]
    match ← Http.send (Http.posting address [Http.acceptAll, Http.bearer token] body) with
    | none => Job.fail ⟨["slack request"], .http⟩
    | some answer =>
      if answer.isSuccess then
        Job.ofOutcome (slackVerdict (← Job.ofOutcome (answer.json "decode slack response")))
      else Job.fail (Failure.stated ("slack returned " ++ answer.line))

def discord (address token channel : String) : Channel where
  name := "discord"
  send message := do
    let address := Http.trimSlashes address ++ "/channels/" ++ channel ++ "/messages"
    let token := ("authorization", "Bot " ++ token)
    let body : Json := .object [("content", .text message)]
    match ← Http.send (Http.posting address [Http.acceptAll, token] body) with
    | none => Job.fail ⟨["discord request"], .http⟩
    | some answer =>
      if answer.isSuccess then pure ()
      else Job.fail (Failure.stated ("discord returned " ++ answer.line ++ ": " ++ answer.body))

/-- A service by its name, its address, the two variables that it needs, and the
channel that they make. -/
structure Service where
  name : String
  address : String
  token : String
  place : String
  channel : String → String → String → Channel

def services : List Service := [
  ⟨"slack", "https://slack.com/api", "SLACK_BOT_TOKEN", "SLACK_CHANNEL", slack⟩,
  ⟨"discord", "https://discord.com/api/v10", "DISCORD_BOT_TOKEN", "DISCORD_CHANNEL_ID", discord⟩]

/-- The note on a service that is left out. -/
def skippedNote (s : Service) : Note :=
  .warning (s.token ++ " or " ++ s.place ++ " not set, skipping " ++ s.name ++ " notifications") []

/-- The channels of the services whose variables are set. -/
def ofServices (value? : String → Option String) : List Service → Deed (List Channel)
  | [] => pure []
  | s :: rest =>
    match value? s.token, value? s.place with
    | some token, some place => do
      let more ← ofServices value? rest
      pure (s.channel s.address token place :: more)
    | _, _ => do
      Deed.note (skippedNote s)
      ofServices value? rest

def ofVariables (value? : String → Option String) : Deed (List Channel) :=
  ofServices value? services

end AgentWorkflow.Channels
