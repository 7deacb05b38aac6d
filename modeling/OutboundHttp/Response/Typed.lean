import OutboundHttp.Json.Typed
import OutboundHttp.Response.Basic

/-!
# Responses with a value

The content of a response is read as JSON of a wanted kind.
-/
namespace OutboundHttp

/-- A response together with the value of its content. -/
structure TypedResponse (α : Type) where
  response : Response
  resource : α

/-- The value of a text of JSON. -/
def readContent {α : Type} (reader : Json.Reader α) (content : Text) : Except HttpError α :=
  (reader.run content).mapError .deserialization

/-- The response with the value of its content, if it is of the wanted kind. -/
def TypedResponse.read {α : Type} (reader : Json.Reader α) (response : Response) :
    Except HttpError (TypedResponse α) := do
  return ⟨response, ← readContent reader response.content⟩

end OutboundHttp
