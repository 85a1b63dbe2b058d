import TopicRouting.Api.Address
import TopicRouting.Text.Case

/-! The paths that can be requested, and the methods for them. A path that is known but for the
slashes at its end is told to be asked for without them. -/
namespace TopicRouting.Api

inductive Route where
  | health
  | listing
  | create
  | delete (label : Text)
  | match (label : Text)
  | build (label : Text)
  | subscribe (label : Text)
  | publish (label : Text)
  | page
  deriving DecidableEq, Repr

inductive Refusal where
  | unknownPath
  | wrongMethod
  | slashes
  deriving DecidableEq, Repr

def pages : List Text := ["/openapi.json", "/docs", "/docs/oauth2-redirect", "/redoc"]

def after? (start path : Text) : Option Text :=
  if start.isPrefixOf path then some (path.drop start.length) else none

def before? (ending path : Text) : Option Text :=
  let cut (path : Text) : Option Text :=
    if ending.isSuffixOf path then some (path.take (path.length - ending.length)) else none
  match cut path with
  | some start => some start
  | none => if path.getLast? = some '\n' then cut path.dropLast else none

def isPath (known path : Text) : Bool := path == known || path == known ++ ['\n']

def isLabel (text : Text) : Bool := !text.isEmpty && !text.contains '/'

def on (method : String) (route : Route) : Text × Route := (method, route)

def actions : List (Text × (Text → Route)) :=
  [("/match", .match), ("/build", .build), ("/subscribe", .subscribe), ("/publish", .publish)]

def labelRoutes (path : Text) : List (Text × Route) :=
  match after? "/api/patterns/" path with
  | none => []
  | some rest =>
      (if isLabel rest then [on "DELETE" (.delete rest)] else []) ++
        actions.filterMap fun (ending, route) =>
          ((before? ending rest).filter isLabel).map fun label => on "POST" (route label)

def routesAt (path : Text) : List (Text × Route) :=
  (if pages.any (isPath · path) then [on "GET" .page, on "HEAD" .page] else []) ++
  (if isPath "/health" path then [on "GET" .health] else []) ++
  (if isPath "/api/patterns" path then [on "GET" .listing, on "POST" .create] else []) ++
  labelRoutes path

def withoutSlashes (path : Text) : Text := (path.reverse.dropWhile (· = '/')).reverse

def findRoute (method path : Text) : Except Refusal Route :=
  match routesAt path with
  | [] =>
      if path.getLast? = some '/' && !(routesAt (withoutSlashes path)).isEmpty then
        .error .slashes
      else .error .unknownPath
  | routes =>
      match routes.find? (·.1 == Text.upper method) with
      | some (_, route) => .ok route
      | none => .error .wrongMethod

end TopicRouting.Api
