import Mathlib
import RemoteSql.Envelope
import RemoteSql.Proofs.Json.Written
import RemoteSql.Proofs.Text.Blank
import RemoteSql.Proofs.Text.Utf8

/-!
# The document of a body

An envelope is decoded from the text of a body without the blanks around it. The blanks of text are
more than the white space of JSON, but around an object they can only be the latter, so the document
is the object that the octets hold.
-/

namespace RemoteSql

namespace Text

theorem trimChars_enclosed {before after cs : List Char} {a z : Char}
    (hbefore : ∀ c ∈ before, isBlank c = true) (hafter : ∀ c ∈ after, isBlank c = true)
    (ha : isBlank a = false) (hz : isBlank z = false) :
    trimChars (before ++ (a :: (cs ++ z :: after))) = a :: (cs ++ [z]) := by
  have hlast : (a :: (cs ++ [z])).getLast? = some z := by
    rw [← List.cons_append, List.getLast?_concat]
  have hsplit : a :: (cs ++ z :: after) = a :: (cs ++ [z]) ++ after := by simp
  rw [hsplit]
  exact trimChars_append hbefore (by simpa using ha) (by simpa [hlast] using hz) hafter

/-- Characters whose octets are white space of JSON. -/
theorem isBlank_of_spaces {cs : List Char} (h : Json.Spaces (cs.flatMap String.utf8EncodeChar)) :
    ∀ c ∈ cs, isBlank c = true := by
  intro c hc
  have hoctets : ∀ b ∈ String.utf8EncodeChar c, Json.isSpace b = true := fun b hb =>
    h b (List.mem_flatMap.mpr ⟨c, hc, hb⟩)
  obtain ⟨b, hb⟩ := List.exists_mem_of_ne_nil _ String.utf8EncodeChar_ne_nil
  have hspace := hoctets b hb
  simp only [Json.isSpace, Bool.or_eq_true, beq_iff_eq] at hspace
  rcases hspace with ((rfl | rfl) | rfl) | rfl <;>
    · obtain ⟨rfl, -⟩ := Utf8.eq_of_mem_encodeChar (by decide) hb
      decide

end Text

namespace Envelope

section Verdicts

variable {document : Json.Members}

theorem ofDocument_of_ok (h : statusOf document = some .ok) (http : HttpStatus) :
    ofDocument document http = ⟨.success document, http⟩ := by
  simp [ofDocument, h]

theorem ofDocument_of_fail (h : statusOf document = some .fail) (http : HttpStatus) :
    ofDocument document http = ⟨.failure (detailOf document), http⟩ := by
  simp [ofDocument, h]

theorem ofDocument_of_none (h : statusOf document = none) (http : HttpStatus) :
    ofDocument document http = httpFailure http := by
  simp [ofDocument, h]

theorem isOk_ofDocument_iff {http : HttpStatus} :
    (ofDocument document http).isOk = true ↔ statusOf document = some .ok := by
  rcases hstatus : statusOf document with - | - | -
  · simp [ofDocument_of_none hstatus, httpFailure, isOk]
  · simp [ofDocument_of_ok hstatus, isOk]
  · simp [ofDocument_of_fail hstatus, isOk]

theorem decode_of_document {body : String} (h : document? body = some document)
    (http : HttpStatus) : decode body http = ofDocument document http := by
  rw [decode, h]

end Verdicts

/-- The document of a body is the object that its octets hold. -/
theorem document?_of_parse? {body : String} {members : Json.Members}
    (h : Json.parse? (Utf8.encode body) = some (.object members)) :
    document? body = some members := by
  obtain ⟨spaces, text, rest, hbody, hs, hs', henclosed, hv⟩ := Json.exists_object_of_parse? h
  obtain ⟨inner, rfl, -⟩ :=
    Payload.exists_inner_of_enclosed (fun _ _ hitem => hitem.balanced) henclosed
  have hwritten : Json.Written Json.maxDepth (.object members)
      (Ascii.openBrace :: (inner ++ [Ascii.closeBrace])) := Json.written_object henclosed hv
  -- The braces are characters of the body, and all that is outside of them is white space.
  obtain ⟨before, tail, hcs, hbefore, htail⟩ :=
    Utf8.exists_split_of_encoded (b := Ascii.openBrace) (by decide) hbody
  rw [List.append_assoc, List.singleton_append] at htail
  obtain ⟨mid, after, rfl, hmid, hafter⟩ :=
    Utf8.exists_split_of_encoded (b := Ascii.closeBrace) (by decide) htail
  have htrim : Text.trimChars body.toList =
      Char.ofNat Ascii.openBrace.toNat :: (mid ++ [Char.ofNat Ascii.closeBrace.toNat]) := by
    rw [hcs]
    exact Text.trimChars_enclosed (Text.isBlank_of_spaces (hbefore ▸ hs))
      (Text.isBlank_of_spaces (hafter ▸ hs')) (by decide) (by decide)
  have hencode : Utf8.encode (Text.trim body) =
      Ascii.openBrace :: (inner ++ [Ascii.closeBrace]) := by
    rw [Utf8.encode, Text.trim, String.toList_ofList, htrim, List.flatMap_cons, List.flatMap_append,
      hmid]
    rfl
  have hparse := Json.parse?_spaced Json.spaces_nil Json.spaces_nil hwritten
  rw [List.nil_append, List.append_nil] at hparse
  rw [document?, hencode, hparse]
  rfl

end Envelope

end RemoteSql
