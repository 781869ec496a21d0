import PriceBoard.Service.Run

/-!
# Settings

What can be set of a service, and what holds where nothing is set.
-/
namespace PriceBoard

/-- The settings that every service has. -/
structure BaseSettings where
  logLevel : String
  redactionPatterns : List String
  environment : String
  storeHost : String
  storePort : Int
  storeDatabase : Int
  serviceName : String

structure Settings extends BaseSettings where
  streamBase : String
  /-- Each feed with its symbol at the exchange. -/
  symbols : List (String × String)
  listens : Bool
  reconnect : Backoff Float
  interval : Float
  grace : Float
  /-- Seconds. -/
  retention : Int
  defaultWindow : String
  resultLimit : Int
  queryTimeout : Float
  scanBatch : Int
  allowedOrigins : List String

namespace BaseSettings

def default : BaseSettings where
  logLevel := "INFO"
  redactionPatterns := ["password", "token", "secret", "key", "authorization", "cookie", "session"]
  environment := "production"
  storeHost := "redis"
  storePort := 6379
  storeDatabase := 0
  serviceName := "unknown"

end BaseSettings

namespace Settings

def default : Settings where
  toBaseSettings := { BaseSettings.default with serviceName := "dashboard" }
  streamBase := "wss://stream.binance.com:9443/ws"
  symbols := [("bitcoin", "btcusdt"), ("ethereum", "ethusdt"), ("bnb", "bnbusdt"),
    ("xrp", "xrpusdt"), ("sol", "solusdt")]
  listens := true
  reconnect := ⟨1, 30⟩
  interval := 5
  grace := 10
  retention := 35 * 24 * 3600
  defaultWindow := (Web.SiteSettings.standard : Web.SiteSettings Float).defaultWindow
  resultLimit := 100
  queryTimeout := Web.SiteSettings.standard.deadline.limit
  scanBatch := 500
  allowedOrigins := (Web.SiteSettings.standard : Web.SiteSettings Float).allowedOrigins

def feeds (settings : Settings) : List String := settings.symbols.map (·.1)

/-- The address of a symbol's trades. Slashes at the end of the base do not count. -/
def streamAddress (base symbol : String) : String :=
  Web.withoutSlashes base ++ "/" ++ symbol ++ "@trade"

/-- Each feed with the address of its stream. -/
def streams (settings : Settings) : List (String × String) :=
  settings.symbols.map fun (feed, symbol) => (feed, streamAddress settings.streamBase symbol)

def web (settings : Settings) : Web.SiteSettings Float :=
  ⟨settings.defaultWindow, ⟨settings.queryTimeout,
    Decimal.floatText Decimal.plainStyle settings.queryTimeout⟩, settings.allowedOrigins⟩

def service (settings : Settings) : ServiceSettings Float where
  board := ⟨settings.retention, settings.scanBatch, settings.resultLimit⟩
  web := settings.web
  feeds := settings.streams
  listens := settings.listens
  backoff := settings.reconnect
  interval := settings.interval
  grace := settings.grace

end Settings
end PriceBoard
