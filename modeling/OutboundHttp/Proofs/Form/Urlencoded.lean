import OutboundHttp.Form.Urlencoded
import OutboundHttp.Proofs.Uri.Parse
import OutboundHttp.Proofs.Uri.Query
import Mathlib.Data.List.Forall2

/-!
# Small forms are read as queries

A form that is sent as pairs is a query: behind a question mark its body is a uri, and the
parameters of that uri are the parts of the form in order, each with its name and with its
payload as text (`fields?_encode`).  Such a text is all that is left of a payload, so a payload
comes back as it was exactly if it is UTF-8.
-/
namespace OutboundHttp

namespace Uri

/-- Written parameters can be a query. -/
theorem isQuery_paramsText (params : List (Text × Text)) : IsQuery (Query.paramsText params) :=
  @Query.isQuery_of_mem [] _ (by simp [IsQuery]) fun _ hc =>
    Or.inr (Query.isParamChar_of_mem_paramsText hc)

/-- A query alone is a uri. -/
theorem parse_query {query : Text} (h : IsQuery query) :
    parse ('?' :: query) = .ok { query := query, text := '?' :: query } := by
  have hsections : Sections.ofText ('?' :: query) = ⟨[], some query, none⟩ := by
    rw [Sections.ofText_query, Text.cutFirst_of_not_mem h.1]
  have hunbroken : (Sections.ofText ('?' :: query)).Unbroken := by
    rw [hsections]
    exact ⟨noBreak_nil, fun q hq => Option.some.inj hq ▸ h.2, nofun⟩
  rw [parse_of_unbroken hunbroken, Sections.parts, hsections]
  rfl

end Uri

namespace Urlencoded

/-- The fields in the body of a form, read as the query of a uri. -/
def fields? (body : Bytes) : Option (List (Text × Text)) := do
  let text ← Utf8.decode? body
  let uri ← (Uri.parse ('?' :: text)).toOption
  return uri.queryParams

/-- The fields of a form: the name of each part, with its payload as text. -/
def fields (parts : List FormPart) : List (Text × Text) :=
  parts.map fun part => (part.name, Utf8.decodeLossy part.payload)

/-- A form is written like the parameters of a query. -/
theorem text_eq_paramsText (parts : List FormPart) :
    text parts = Query.paramsText (fields parts) := by
  rw [text, Query.paramsText, fields, List.map_map]
  rfl

/-- The fields of a form are read from its body. -/
theorem fields?_body (parts : List FormPart) :
    fields? (encode parts).body = some (fields parts) := by
  have hbody : (encode parts).body = Utf8.encode (Query.paramsText (fields parts)) :=
    congrArg Utf8.encode (text_eq_paramsText parts)
  have hparse := Uri.parse_query (Uri.isQuery_paramsText (fields parts))
  rw [fields?, hbody, Utf8.decode?_encode, Option.bind_eq_bind, Option.bind_some, hparse]
  exact congrArg some (Query.pairs_paramsText (fields parts))

/-- Parts that are plain texts have these texts as their fields. -/
theorem fields_map_value (texts : List (Text × Text)) :
    fields (texts.map fun field => .value field.1 (Utf8.encode field.2)) = texts := by
  rw [fields, List.map_map]
  refine (List.map_congr_left fun field _ => ?_).trans (List.map_id' texts)
  exact Prod.ext rfl (Utf8.decodeLossy_encode field.2)

/-- **A small form is read as it was written.**  Its body is the query of a uri whose
parameters are the names of the parts with their payloads as text, in order.  A payload comes
back byte for byte exactly if it is the UTF-8 of some text, and parts that were made from
texts come back as these texts. -/
theorem fields?_encode (parts : List FormPart) :
    fields? (encode parts).body = some (fields parts) ∧
      List.Forall₂ (fun part field =>
        field = (part.name, Utf8.decodeLossy part.payload) ∧
          (Utf8.encode field.2 = part.payload ↔ ∃ text, Utf8.encode text = part.payload))
        parts (fields parts) ∧
      ∀ texts : List (Text × Text),
        fields? (encode (texts.map fun field => .value field.1 (Utf8.encode field.2))).body =
          some texts := by
  refine ⟨fields?_body parts, ?_, fun texts => ?_⟩
  · refine List.forall₂_map_right_iff.mpr (List.forall₂_same.mpr fun part _ => ?_)
    exact ⟨rfl, Utf8.encode_decodeLossy_iff⟩
  · rw [fields?_body, fields_map_value]

/-- Marks in a name, a payload that is no text, and nothing at all. -/
example : fields? (encode [.value "a&=?#" [0xFF], .file [] "f" [] []]).body =
    some [(("a&=?#" : Text), ("\uFFFD" : Text)), ([], [])] := by
  rw [fields?_body]
  rfl

end Urlencoded
end OutboundHttp
