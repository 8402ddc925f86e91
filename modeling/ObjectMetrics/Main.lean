import ObjectMetrics.Adapter.Schedule
import ObjectMetrics.Http.Router
import ObjectMetrics.Json.Reading
import ObjectMetrics.Json.Text
import ObjectMetrics.Settings.Environment
import ObjectMetrics.Wire.Reading
import ObjectMetrics.Wire.Writing
/-!
The adapter as a process. Settings come from the environment. The first line of the input lists the
resources of the cluster in JSON; each further line is a request, `SECONDS METHOD URI BODY`. Answers
go out as lines of a status and a body, and log events as JSON to the error output. Until its first
tick the mapper counts as degraded, for it has no catalog yet; the store is healthy from the beginning.
-/
namespace ObjectMetrics.Adapter

def version : String := "0.1.0"

def launch (s : Settings) (clock : Instant) (discovery : DiscoverySource) : Adapter :=
  let a := start s.toAdapter clock discovery
  { a with
    health := (a.health.report HealthBoard.mapper (.degraded "waiting for first discovery")).report
      HealthBoard.store .healthy
    telemetry := a.telemetry.log [.started s.name version s.message] }

end ObjectMetrics.Adapter

namespace ObjectMetrics.Main

def variableNames : List String :=
  "POD_NAME" :: Settings.names.map fun name => "ADAPTER_" ++ name.toUpper

def environment : IO Environment :=
  variableNames.filterMapM fun name => return (← IO.getEnv name).map fun value => (name, value)

def reportsOfLine? (line : String) : Option (List ResourceReport) :=
  match Json.read (Text.encodeUtf8 line) with
  | some (.list vs) => vs.mapM Wire.resourceReport?
  | _ => none

def requestOfLine? (line : String) : Option (Instant × HttpRequest) := do
  let (seconds, rest) ← Text.cut? ' ' (Text.trim line)
  let (method, rest) ← Text.cut? ' ' rest
  let (uri, body) := (Text.cut? ' ' rest).getD (rest, "")
  return (⟨← Number.readInt64? seconds, 0⟩, ⟨method, uri, Text.encodeUtf8 body⟩)

def answerLine (r : HttpResponse) : String :=
  let body := match r.body with
    | .empty => ""
    | .text s => s
    | other => (Wire.responseBody Json.float other).render
  s!"{r.status} {body}"

def flushLog (a : Adapter) : IO Adapter := do
  let (events, telemetry) := a.telemetry.drain
  for e in events do
    IO.eprintln (Wire.logEvent Json.float e).render
  return { a with telemetry }

partial def serveLines (input : IO.FS.Stream) (a : Adapter) : IO Adapter := do
  let line ← input.getLine
  if line.isEmpty then return a
  match requestOfLine? line with
  | none =>
    IO.println (answerLine ⟨400, .empty⟩)
    serveLines input a
  | some (clock, request) =>
    let (response, a) := { a with clock }.serve request
    IO.println (answerLine response)
    serveLines input (← flushLog a)

def run : IO UInt32 := do
  match Settings.ofEnvironment (← environment) with
  | .error flaw =>
    IO.eprintln flaw.message
    return 1
  | .ok settings =>
    let input ← IO.getStdin
    let reports := (reportsOfLine? (← input.getLine)).getD []
    let a := Adapter.launch settings ⟨0, 0⟩ (.ofReports reports)
    let a ← flushLog (a.tick ⟨true, true⟩).2
    let a ← serveLines input a
    let stopped := a.telemetry.log [.stopped settings.name "end of input"]
    let _ ← flushLog { a with telemetry := stopped }
    return 0

end ObjectMetrics.Main

def main : IO UInt32 := ObjectMetrics.Main.run
