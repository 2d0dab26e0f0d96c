import Workbench.Text.FormEncoding
import Workbench.Tool.Viewer
namespace Workbench

/-!
Searching the web through one of three services.  The variables of the process
tell which service there is a key for; the first one in a fixed order is asked.
Each service has its own address, its own fields and its own names for the parts
of a result.
-/

namespace Web

/-- The services that can be asked. -/
inductive Service where
  | tavily
  | brave
  | serpApi
  deriving DecidableEq, Repr

namespace Service

def all : List Service :=
  [tavily, brave, serpApi]

/-- The name by which a service is known in settings. -/
def name : Service → String
  | tavily => "tavily"
  | brave => "brave"
  | serpApi => "serpapi"

/-- The name of a service in reports. -/
def title : Service → String
  | tavily => "Tavily"
  | brave => "Brave"
  | serpApi => "SerpAPI"

/-- The variable that holds the key to a service. -/
def keyVariable : Service → String
  | tavily => "TAVILY_API_KEY"
  | brave => "BRAVE_API_KEY"
  | serpApi => "SERPAPI_KEY"

/-- The request that asks a service. -/
def request (service : Service) (settings : WebSettings) (key query : String) : Request :=
  let count := Decimal.write settings.maxResults
  match service with
  | tavily =>
    { address := "https://api.tavily.com/search"
      headers := []
      body := some (.object
        [("api_key", .text key), ("max_results", .number count), ("query", .text query),
          ("search_depth", .text "basic")])
      patience := settings.patience }
  | brave =>
    { address := "https://api.search.brave.com/res/v1/web/search?" ++
        FormEncoding.fields [("q", query), ("count", count)]
      headers := [("X-Subscription-Token", key)]
      body := none
      patience := settings.patience }
  | serpApi =>
    { address := "https://serpapi.com/search?" ++
        FormEncoding.fields
          [("q", query), ("api_key", key), ("num", count), ("engine", "google")]
      headers := []
      body := none
      patience := settings.patience }

/-- The results in a service's answer. -/
def results (service : Service) (answer : Json) : Json :=
  match service with
  | tavily => answer.member "results"
  | brave => (answer.member "web").member "results"
  | serpApi => answer.member "organic_results"

/-- The names of a result's link and of its text. -/
def resultKeys : Service → String × String
  | tavily => ("url", "content")
  | brave => ("url", "description")
  | serpApi => ("link", "snippet")

end Service

/-- The first service that there is a key for, and the key. -/
def service? (bindings : List (String × String)) : Option (Service × String) :=
  Service.all.findSome? (fun service =>
    (bindings.lookup service.keyVariable).map (fun key => (service, key)))

/-- A text cut after a number of characters, with dots where something was cut
off. -/
def truncate (text : String) (limit : Nat) : String :=
  if limit < text.toList.length then String.ofList (text.toList.take limit) ++ "..." else text

/-- How many characters of a result's text are shown. -/
def snippetLimit : Nat := 200

/-- One result with its number. -/
def renderResult (linkKey snippetKey : String) (number : Nat) (result : Json) : String :=
  let title := (result.member "title").text?.getD "(no title)"
  let link := (result.member linkKey).text?.getD ""
  let snippet := (result.member snippetKey).text?.getD ""
  Decimal.write number ++ ". " ++ title ++ "\n   " ++ link ++ "\n   " ++
    truncate snippet snippetLimit ++ "\n"

/-- Results with their numbers, counted from the given one. -/
def renderFrom (linkKey snippetKey : String) : Nat → List Json → List String
  | _, [] => []
  | number, result :: rest =>
    renderResult linkKey snippetKey number result :: renderFrom linkKey snippetKey (number + 1) rest

/-- The listing of a service's results. -/
def render (results : Json) (linkKey snippetKey : String) : String :=
  match results with
  | .array (first :: rest) =>
    String.intercalate "\n" (renderFrom linkKey snippetKey 1 (first :: rest))
  | _ => "No results found"

/-- Can a text be sent beside an address?  Tabs can, other controls cannot. -/
def isSendable (text : String) : Bool :=
  text.toUTF8.data.toList.all (fun byte => byte == 9 || (32 ≤ byte && byte != 127))

/-- The report of asking a service. -/
def ask (host : Host) (service : Service) (request : Request) : String :=
  if !request.headers.all (fun header => isSendable header.2) then
    "Error: Search request failed: builder error"
  else
    match host.fetch request with
    | .unreachable =>
      "Error: Search request failed: error sending request for url (" ++ request.address ++ ")"
    | .refused status text =>
      "Error: " ++ service.title ++ " API error " ++ status ++ ": " ++ text
    | .garbled complaint => "Error: Failed to parse response: " ++ complaint
    | .answered answer =>
      let keys := service.resultKeys
      render (service.results answer) keys.1 keys.2

def search (settings : WebSettings) : Action := fun environment arguments world =>
  match arguments.require "web_search" "query" with
  | .error failure => (.error failure, world)
  | .ok query =>
    match service? environment.host.bindings with
    | none =>
      (.ok ("No search API configured. Set TAVILY_API_KEY, BRAVE_API_KEY, or SERPAPI_KEY " ++
        "environment variable."), world)
    | some (service, key) =>
      (.ok (ask environment.host service (service.request settings key query)), world)

def definition : Definition where
  name := "web_search"
  signature := "web_search <query>"
  summary := "searches the web and prints the top results. Requires TAVILY_API_KEY, " ++
    "BRAVE_API_KEY, or SERPAPI_KEY"
  parameters := [⟨"query", "string", "the search query", true⟩]
  endMark := none

def tools (settings : WebSettings) : List (Tool Action) :=
  [⟨definition, search settings⟩]

end Web

end Workbench
