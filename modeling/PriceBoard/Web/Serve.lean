import PriceBoard.Board.Basic
import PriceBoard.Text.Quoted
import PriceBoard.Web.Message

/-!
# Serving requests

Five paths can be read with `GET`. The history of a window and the snapshots that a text describes
come from the store, within a time limit; failures of the store and malformed texts have responses of
their own. Pages of the allowed origins may read the responses.
-/
namespace PriceBoard.Web

structure SiteSettings (Time : Type) where
  /-- The window of a request that names none. -/
  defaultWindow : String
  /-- For a query. -/
  deadline : Deadline Time
  allowedOrigins : List String

namespace SiteSettings

def standard {Time : Type} [Timeline Time] : SiteSettings Time :=
  ⟨"60m", ⟨Timeline.ofNat 10, "10.0"⟩, ["*"]⟩

def allowsAll {Time : Type} (settings : SiteSettings Time) : Bool :=
  settings.allowedOrigins.contains "*"

def allows {Time : Type} (settings : SiteSettings Time) (origin : String) : Bool :=
  settings.allowsAll || settings.allowedOrigins.contains origin

end SiteSettings

/-- What a site serves: a board in a world where commands take their time. -/
structure Site (Time World : Type) where
  settings : SiteSettings Time
  host : Host Time World
  board : World → Board Time
  count : List Metric → World → World

/-- A site whose world is a board. -/
def siteOf {Time : Type} [Timeline Time] (settings : SiteSettings Time) : Site Time (Board Time) :=
  ⟨settings, Board.host, id, fun metrics board => board.count metrics⟩

def boardSite {Time : Type} [Timeline Time] : Site Time (Board Time) := siteOf .standard

/-- What is not turned into a response. -/
inductive Fault where
  | history (error : HistoryError)
  /-- An infinity or not-a-number, which the body cannot hold. -/
  | notFinite

inductive Endpoint where
  | health
  | readiness
  | history
  | filter
  | metrics
  deriving DecidableEq, Repr

namespace Endpoint

def all : List Endpoint := [.health, .readiness, .history, .filter, .metrics]

def path : Endpoint → String
  | .health => "/healthz"
  | .readiness => "/readyz"
  | .history => "/api/history"
  | .filter => "/api/filter"
  | .metrics => "/metrics"

def ofPath? (path : String) : Option Endpoint := all.find? (·.path = path)

end Endpoint

def wires (snapshots : List Snapshot) : Except Fault Response :=
  if snapshots.all fun snapshot => snapshot.values.all (·.2.isFinite) then
    .ok (.json 200 (.array (snapshots.map Snapshot.wire)))
  else .error .notFinite

/-- The response to a history query. -/
def historyResponse : Except HistoryError (List Snapshot) → Except Fault Response
  | .ok snapshots => wires snapshots
  | .error (.malformed _) => .ok (.failure 400 "error" "Malformed query")
  | .error (.timedOut _ _) => .ok (.failure 504 "error" "Query timed out")
  | .error (.storage _ _) => .ok (.failure 500 "error" "Failed to read history")
  | .error error => .error (.history error)

def waitingMessage (missing : List String) : String :=
  "not ready (waiting on " ++ Text.quotedList missing ++ ")"

def readinessResponse (ready : Bool) (missing : List String) : Response :=
  if ready then .json 200 (.object [("status", .string "ready")])
  else .text 503 (waitingMessage missing)

def healthResponse : Issued → Response
  | .refused message => .text 503 message
  | _ => .json 200 (.object [("status", .string "ok"), ("redis", .bool true)])

section

variable {Time World : Type} [Timeline Time]

def serveRun (site : Site Time World) (run : History.Run World) :
    World × Except Fault Response :=
  (site.count run.metrics run.world, historyResponse run.answer)

def serveEndpoint (site : Site Time World) (world : World) (request : Request) :
    Endpoint → World × Except Fault Response
  | .health =>
    let (world, ended) := site.host.issue none .ping world
    (world, .ok (healthResponse ended))
  | .readiness =>
    let board := site.board world
    (world, .ok (readinessResponse board.ready board.quotes.missing))
  | .history =>
    let token := (request.param? "filter").getD site.settings.defaultWindow
    serveRun site (History.ofWindow site.host (site.board world).now world (.token (some token))
      (some site.settings.deadline))
  | .filter =>
    let board := site.board world
    serveRun site (History.search site.host board.context board.settings.limit
      board.settings.batch world ((request.param? "query").getD "")
      (some site.settings.deadline))
  | .metrics => (world, .ok ⟨200, .report, none⟩)

/-- A path with a slash too many leads to the one without. -/
def withoutSlashes (path : String) : String :=
  String.ofList (path.toList.reverse.dropWhile (· = '/')).reverse

def route (site : Site Time World) (world : World) (request : Request) :
    World × Except Fault Response :=
  match Endpoint.ofPath? request.path with
  | some endpoint =>
    if request.method = "GET" then serveEndpoint site world request endpoint
    else (world, .ok (.failure 405 "detail" "Method Not Allowed"))
  | none =>
    if request.path.endsWith "/" ∧ (Endpoint.ofPath? (withoutSlashes request.path)).isSome then
      (world, .ok (.text 307 ""))
    else (world, .ok (.failure 404 "detail" "Not Found"))

def preflightRefusals (settings : SiteSettings Time) (origin method : String) : List String :=
  (if settings.allows origin then [] else ["origin"]) ++ if method = "GET" then [] else ["method"]

/-- What a page of another origin may ask in advance: whether it may read with a method. -/
def preflight (settings : SiteSettings Time) (origin method : String) : Response :=
  let response := match preflightRefusals settings origin method with
    | [] => Response.text 200 "OK"
    | refusals => .text 400 ("Disallowed CORS " ++ ", ".intercalate refusals)
  { response with
    allowOrigin :=
      if settings.allowsAll then some "*"
      else if settings.allows origin then some origin else none }

/-- A request with a cookie is told its own origin, even where any other is allowed. -/
def allowedOrigin (settings : SiteSettings Time) (request : Request) (origin : String) :
    Option String :=
  if settings.allowsAll ∧ (request.header? "cookie").isNone then some "*"
  else if settings.allows origin then some origin else none

def serve (site : Site Time World) (world : World) (request : Request) :
    World × Except Fault Response :=
  match request.header? "origin" with
  | none => route site world request
  | some origin =>
    match request.method, request.header? "access-control-request-method" with
    | "OPTIONS", some method => (world, .ok (preflight site.settings origin method))
    | _, _ =>
      let (world, response) := route site world request
      (world, response.map fun response =>
        { response with allowOrigin := allowedOrigin site.settings request origin })

end

end PriceBoard.Web
