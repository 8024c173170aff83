import SchemaScript.Document
import SchemaScript.Proofs.Request.Lawful

/-! A document is read as the requests that it was written from. Requests nest four containers at
most and a document one more, far below what a text may nest, so that no request is too deep to be
read back. -/

namespace SchemaScript.Document

theorem toJson_plain (requests : List Request) : (toJson requests).Plain Json.depthLimit := by
  have hplain : (toJson requests).Plain 5 := (Request.codec_lawful.list).plain requests
  exact hplain.mono (by decide)

theorem write_plain (request : Request) : (Request.codec.write request).Plain Json.depthLimit :=
  (Request.codec_lawful.plain request).mono (by decide)

theorem ofJson_toJson (requests : List Request) :
    ofJson (toJson requests).ordered = .ok requests := by
  show (Json.orderedItems _).mapM _ = _
  rw [Json.orderedItems_eq_map]
  exact Codec.mapM_read_write Request.codec_lawful .plain requests

theorem ofJson_write (request : Request) :
    ofJson (Request.codec.write request).ordered = .ok [request] := by
  obtain ⟨variant, -, fields, -, hwrite⟩ := Tagged.write_eq (Request.exists_variant request)
  have hread := Request.codec_lawful.read_write .plain request
  have hobject : Request.codec.write request = .object _ := hwrite
  rw [hobject] at hread ⊢
  show Except.map _ (Request.codec.read .plain (Json.ordered (.object _))) = _
  rw [hread]
  rfl

theorem parse_write {json : Json} (h : json.Plain Json.depthLimit) :
    parse json.write = (ofJson json.ordered).mapError .mismatch := by
  have hread : Json.parse json.write = .ok json.ordered := Json.parseWithin_write h
  simp only [parse, hread]
  rfl

/-- What is written for requests, all together or one alone, is read as those requests; and a text
that is read as requests may be replaced by what is written for them. -/
theorem parse_written :
    (∀ requests, parse (toJson requests).write = .ok requests) ∧
    (∀ request, parse (Request.codec.write request).write = .ok [request]) ∧
    ∀ text, (do
      let requests ← parse text
      parse (toJson requests).write) = parse text := by
  have list : ∀ requests, parse (toJson requests).write = .ok requests := by
    intro requests
    rw [parse_write (toJson_plain requests), ofJson_toJson]
    rfl
  refine ⟨list, fun request => ?_, fun text => ?_⟩
  · rw [parse_write (write_plain request), ofJson_write]
    rfl
  · simp only [list]
    cases parse text <;> rfl

end SchemaScript.Document
