import OutboundHttp.Proofs.Charset.SingleOctet
import OutboundHttp.Proofs.Charset.Utf16
import OutboundHttp.Proofs.Response.Charset
import OutboundHttp.Proofs.Text.Utf8

/-!
# The content of a response

A response is made from bytes, which are read as text, or from a text, which is written
as bytes.  A text written and read again is the same exactly if the charset of the
response holds it (`decode_encode_iff`): the encodings of Unicode hold every text, a
charset of single octets the texts made of its own characters, and the charset that must
not be decoded hardly any.  What a charset of several octets holds is left to its tables.
-/
namespace OutboundHttp
namespace Charset

variable [MultiOctet.Codec]

/-- A charset holds a text if the text can be read from bytes that were written in it. -/
def Holds : Charset → Text → Prop
  | utf8, _ | utf16LittleEndian, _ | utf16BigEndian, _ => True
  | singleOctet set, text => ∀ c ∈ text, Has set.upper c
  | multiOctet set, text =>
    MultiOctet.Codec.decode set (MultiOctet.Codec.encode set text) = text
  | replacement, text => text = [] ∨ text = [Utf8.replacement]

theorem decode_encode_replacement (text : Text) :
    replacement.decode (replacement.encode text) = text ↔
      text = [] ∨ text = [Utf8.replacement] := by
  by_cases hnil : text = []
  · simp [hnil, decode, encode]
  · have hbytes : (Utf8.encode text).isEmpty = false := by
      simpa [Utf8.encode_eq_nil_iff] using hnil
    simp [decode, encode, hbytes, hnil, eq_comm]

/-- **What a charset holds is what is read as it was written.** -/
theorem decode_encode_iff (charset : Charset) (text : Text) :
    charset.decode (charset.encode text) = text ↔ charset.Holds text := by
  cases charset with
  | utf8 => exact iff_of_true (Utf8.decodeLossy_encode text) trivial
  | utf16LittleEndian => exact iff_of_true (Utf16.decode_encode .littleEndian text) trivial
  | utf16BigEndian => exact iff_of_true (Utf16.decode_encode .bigEndian text) trivial
  | singleOctet set => exact map_charOfByte_flatMap_iff (isUpperHalf set) text
  | multiOctet set => exact Iff.rfl
  | replacement => exact decode_encode_replacement text

end Charset

namespace Response

/-- **A text survives in a response exactly if the charset that its headers name holds it.**
Make a response from a text, and another one from the headers and the bytes of the first.
The content of the first is the text; that of the second is the text exactly if the charset
holds it.  Headers that name no charset lose no text. -/
theorem content_ofBytes_ofText [MultiOctet.Codec] (request request' : Request)
    (headers : HeaderLines) (text : Text) (status status' : Status)
    (version version' : HttpVersion) :
    let written := ofText request headers text status version
    let read := ofBytes request' written.headers written.data status' version'
    written.content = text ∧
      (∀ charset, headers.Names charset → (read.content = text ↔ charset.Holds text)) ∧
      ((∀ charset, ¬ headers.Names charset) → read.content = text) := by
  intro written read
  have hiff : read.content = text ↔ headers.charset.Holds text :=
    Charset.decode_encode_iff headers.charset text
  refine ⟨rfl, fun charset hnames => ?_, fun hnone => hiff.mpr ?_⟩
  · rw [hiff, HeaderLines.charset_of_names hnames]
  · rw [HeaderLines.charset_of_not_names hnone]
    trivial

/-- A Czech letter survives in a charset of Central Europe, a Russian one does not. -/
theorem content_ofBytes_ofText_central :
    let headers : HeaderLines :=
      [("content-type", Utf8.encode "text/plain; charset=Windows-1250"), ("content-type", [])]
    headers.Names (.singleOctet .windows1250) ∧
      ∀ [MultiOctet.Codec] request status version,
        let reread (text : Text) := (ofBytes request headers
          (ofText request headers text status version).data status version).content
        reread "Ř" = ("Ř" : Text) ∧ reread "Ж" ≠ ("Ж" : Text) := by
  intro headers
  have htype : headers.contentType? = some ("text/plain; charset=Windows-1250" : Text) := by decide
  have hpiece : ContentType.markedPiece? "text/plain; charset=Windows-1250" =
      some (" charset=Windows-1250" : Text) := by decide
  have hnames : headers.Names (.singleOctet .windows1250) :=
    ⟨_, _, HeaderLines.contentType?_eq_some_iff.mp htype, hpiece, "windows-1250",
      show _ ∈ SingleOctet.windows1250.labels by decide, by decide⟩
  refine ⟨hnames, fun request status version => ?_⟩
  have hlaw (text : Text) :=
    (content_ofBytes_ofText request request headers text status status version version).2.1 _ hnames
  refine ⟨(hlaw "Ř").mpr fun c hc => ?_, fun heq => ?_⟩
  · obtain rfl : c = 'Ř' := List.mem_singleton.mp hc
    decide
  · have hhas : Charset.Has SingleOctet.windows1250.upper 'Ж' :=
      (hlaw "Ж").mp heq 'Ж' (List.mem_singleton.mpr rfl)
    exact absurd hhas (by decide)

end Response
end OutboundHttp
