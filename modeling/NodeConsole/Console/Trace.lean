import NodeConsole.Gateway.Config
import NodeConsole.Logging.Journal
import NodeConsole.Settings.Config
import NodeConsole.Settings.Endpoint
/-!
The records that commands leave in the journal.
-/

namespace NodeConsole.Console

open NodeConsole.Logging (Record Span)

namespace Trace

def resolved (config : Settings.Config) : Record where
  severity := .debug
  target := "crynux_cli::client"
  message := "resolved client configuration"
  details :=
    [("base_url", .bare config.baseUrl), ("timeout_secs", .number config.timeout.toNat)]

def span (order : Settings.Order) : Span where
  name :=
    match order with
    | .fetch => "fetch_settings"
    | .update _ => "update_settings"
  target := "crynux_webui_api::settings"

def sending (order : Settings.Order) (url : Url) : Record where
  severity := .debug
  target := "crynux_webui_api::transport"
  spans := [span order]
  message := "sending request"
  details :=
    [("method", .bare (match order with | .fetch => "GET" | .update _ => "POST")),
     ("url", .bare url.text)]

def connecting (proxy : String) (order : Settings.Order) (url : Url) : List Record :=
  let place := ({ scheme := url.scheme, host := url.host, port := url.port, path := .segments [[]] } : Url)
  let record (target message : String) : Record :=
    { severity := .debug, target := target, spans := [span order], message := message }
  [record "reqwest::connect" s!"starting new connection: {place.text}",
   record "reqwest::connect" s!"proxy(http://{proxy}/) intercepts '{place.text}'",
   record "hyper_util::client::legacy::connect::http" s!"connecting to {proxy}"]

/-- The records of an order at an endpoint. There is nothing to send without a URL. What is told of
connections that are made, and of the single steps in making one, is left out. -/
def ofOrder (proxy : String) (endpoint : Settings.Endpoint) (order : Settings.Order)
    (result : Settings.Result) : List Record :=
  match endpoint.urlFor Settings.settingsPath with
  | .error _ => []
  | .ok url =>
    sending order url ::
      match result with
      | .error (.unanswered (.unreachable _ _)) => connecting proxy order url
      | _ => []

def starting (build : String) : Record where
  severity := .info
  target := "crynux_cli::commands::proxy"
  message := "starting dev proxy"
  details := [("build_sha", .quoted build)]

def failed (runId message : String) : Record where
  severity := .debug
  target := "crynux_cli::cli"
  message := "command failed"
  details := [("trace_id", .bare runId), ("error", .bare message)]

end Trace

end NodeConsole.Console
