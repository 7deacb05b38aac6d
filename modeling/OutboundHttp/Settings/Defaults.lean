import OutboundHttp.Json.Typed
import OutboundHttp.Settings.Environment
import OutboundHttp.Toml.Document

/-!
# Defaults of requests

What every request of a client starts from.  Defaults are read from a TOML document
over the built-in ones, and from a file with the environment over both.
-/
namespace OutboundHttp

/-- What a request accepts unless it says otherwise. -/
def defaultAccept : Text := "*/*"

/-- What every request of a client starts from. -/
structure Defaults where
  headers : SortedMap Text Text := .empty
  accept : Text := defaultAccept
  logHttpError : Bool := true
  allowAutoRedirect : Bool := true
  keepAlive : Bool := true
  logResponseContent : Bool := false
  useSimplifiedUserAgent : Bool := false
  /-- The least time between two requests to the same host, in seconds. -/
  rateLimitSecs : Float := 0.0
  suppressedStatusCodes : List UInt16 := []

/-- Why there are no defaults. -/
inductive SettingsError where
  /-- The document is no TOML. -/
  | badSyntax
  /-- There is no such file. -/
  | missingFile
  /-- A setting is not of the wanted kind. -/
  | badValue
  deriving DecidableEq, Repr

namespace Defaults

/-- The defaults are the built-in ones; numbers are compared as numbers. -/
def isBuiltIn (d : Defaults) : Bool :=
  let builtIn : Defaults := {}
  decide (d.headers = builtIn.headers) && d.accept == builtIn.accept &&
    d.logHttpError == builtIn.logHttpError && d.allowAutoRedirect == builtIn.allowAutoRedirect &&
    d.keepAlive == builtIn.keepAlive && d.logResponseContent == builtIn.logResponseContent &&
    d.useSimplifiedUserAgent == builtIn.useSimplifiedUserAgent &&
    d.rateLimitSecs == builtIn.rateLimitSecs &&
    d.suppressedStatusCodes == builtIn.suppressedStatusCodes

open Settings (Tree)

/-- The built-in defaults as settings; empty ones are left out. -/
def builtInTree : Tree :=
  let builtIn : Defaults := {}
  Settings.layer (.table []) [
    ("accept", .text builtIn.accept),
    ("log_http_error", .bool builtIn.logHttpError),
    ("allow_auto_redirect", .bool builtIn.allowAutoRedirect),
    ("keep_alive", .bool builtIn.keepAlive),
    ("log_response_content", .bool builtIn.logResponseContent),
    ("use_simplified_user_agent", .bool builtIn.useSimplifiedUserAgent),
    ("rate_limit_secs", .float builtIn.rateLimitSecs)]

/-- The defaults that settings stand for; settings of other names do not count. -/
def ofTree? (tree : Tree) : Option Defaults := do
  let setting {α : Type} (name : Text) (read : Tree → Option α) (builtIn : α) : Option α :=
    match tree.members.lookup name with
    | none => some builtIn
    | some value => read value
  let builtIn : Defaults := {}
  return {
    headers := ← setting "headers" Tree.texts? builtIn.headers
    accept := ← setting "accept" Tree.text? builtIn.accept
    logHttpError := ← setting "log_http_error" Tree.bool? builtIn.logHttpError
    allowAutoRedirect := ← setting "allow_auto_redirect" Tree.bool? builtIn.allowAutoRedirect
    keepAlive := ← setting "keep_alive" Tree.bool? builtIn.keepAlive
    logResponseContent := ← setting "log_response_content" Tree.bool? builtIn.logResponseContent
    useSimplifiedUserAgent :=
      ← setting "use_simplified_user_agent" Tree.bool? builtIn.useSimplifiedUserAgent
    rateLimitSecs := ← setting "rate_limit_secs" Tree.float? builtIn.rateLimitSecs
    suppressedStatusCodes :=
      ← setting "suppressed_status_codes" Tree.codes? builtIn.suppressedStatusCodes }

/-- The defaults of a document with some variables laid over it. -/
def load (document : Text) (environment : List (Text × Text)) : Except SettingsError Defaults :=
  match Toml.document? document with
  | none => .error .badSyntax
  | some members =>
    let written := Settings.layer builtInTree members
    let tree := Settings.layer written (Settings.ofVariables environment)
    match ofTree? tree with
    | some d => .ok d
    | none => .error .badValue

/-- The defaults of a document. -/
def ofToml (document : Text) : Except SettingsError Defaults :=
  load document []

/-- The defaults of a file, if it exists, with the environment laid over it. -/
def ofFile (content : Option Text) (environment : List (Text × Text)) :
    Except SettingsError Defaults :=
  match content with
  | none => .error .missingFile
  | some document => load document environment

/-- A field of the defaults in JSON text, which may be missing. -/
def jsonField {α : Type} (name : Text) (value : Json.Reader α) (put : α → Defaults → Defaults) :
    Json.Reader.Field (Defaults → Defaults) :=
  ⟨name, value.map put, some id⟩

/-- Defaults written as JSON, where every value must be of the wanted kind. -/
def jsonReader : Json.Reader Defaults :=
  let fields := [
    jsonField "headers" (Json.Reader.members Json.Reader.text)
      fun v d => { d with headers := .ofList v },
    jsonField "accept" Json.Reader.text fun v d => { d with accept := v },
    jsonField "log_http_error" Json.Reader.flag fun v d => { d with logHttpError := v },
    jsonField "allow_auto_redirect" Json.Reader.flag fun v d => { d with allowAutoRedirect := v },
    jsonField "keep_alive" Json.Reader.flag fun v d => { d with keepAlive := v },
    jsonField "log_response_content" Json.Reader.flag
      fun v d => { d with logResponseContent := v },
    jsonField "use_simplified_user_agent" Json.Reader.flag
      fun v d => { d with useSimplifiedUserAgent := v },
    jsonField "rate_limit_secs" Json.Reader.float fun v d => { d with rateLimitSecs := v },
    jsonField "suppressed_status_codes" (Json.Reader.list (Json.Reader.unsigned 16))
      fun v d => { d with suppressedStatusCodes := v.map Nat.toUInt16 }]
  (Json.Reader.record "HttpDefaults" fields).map fun changes =>
    changes.foldl (fun d change => change.2 d) {}

end Defaults
end OutboundHttp
