import MirrorECMA.ECMA.Integers
import MirrorECMA.ModelInterface.CanonicalText
import MirrorECMA.Negotiation.Release

namespace Mirror.Negotiation

open ECMA ModelInterface Mirror.Protocol

/-! ### A reply that matches -/

def matchedReply : Json := .object [(js "proto_step", .string (js "spec_validated")), (js "result", .string (js "valid")),
  (js "modelInterface", .object [(js "schema", .string (js MODEL_INTERFACE_NEGOTIATION_SCHEMA)),
    (js "status", .string (js "matched")), (js "descriptorSchema", .string (js MODEL_INTERFACE_DESCRIPTOR_SCHEMA)),
    (js "semanticDigest", .string (js "sha256:" ++ zeroDigest.hex))])]

def matchedLine : JsString := (written matchedReply).render

theorem matchedReply_plain : PlainJson matchedReply := by
  apply PlainJson.object (by decide) (by decide)
  intro field member
  simp only [List.mem_cons, List.not_mem_nil, or_false] at member
  rcases member with rfl | rfl | rfl
  · exact .string (by decide)
  · exact .string (by decide)
  · apply PlainJson.object (by decide) (by decide)
    intro field member
    simp only [List.mem_cons, List.not_mem_nil, or_false] at member
    rcases member with rfl | rfl | rfl | rfl
    all_goals exact .string (by decide)

theorem matchedLine_decoded [Sha256] [NumberText] [SafeNumberConversion] :
    decodeModelInterfaceMirrorMessage matchedLine = .ok ⟨.specValidated .valid, some (.reply (.matched ⟨zeroDigest, none⟩))⟩ := by
  have strict : parseStrictJson matchedLine = .ok matchedReply := by
    apply (parseStrictJson_written matchedReply_plain (by decide +kernel)).mpr
    exact ⟨by decide, rfl⟩
  have parsed := (parseStrictJson_exact _).2 _ strict
  simp only [decodeModelInterfaceMirrorMessage, decodeRaw, strict, decodeMirrorMessage, parsed]
  rfl

end Mirror.Negotiation
