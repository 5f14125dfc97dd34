import Mathlib
import RemoteSql.Proofs.Json.Written
import RemoteSql.Proofs.Text.Utf8

/-!
# The spellings of a value

One value has many texts: a character may stand for itself or be escaped, in several ways, and white
space may stand between any two tokens. The relation `Spells` is the grammar of these texts, written
from the side of the value. A reader that reads a value back from its spellings has lost nothing of
it, whatever writer has chosen among them.
-/

namespace RemoteSql.Json

open Payload (Quoted)

/-! ## Characters and strings -/

/-- A number below 65536 and four hexadecimal digits that write it, in either case. -/
inductive Hex : Nat → Bytes → Prop
  | mk {b₃ b₂ b₁ b₀ : UInt8} {d₃ d₂ d₁ d₀ : Nat} (h₃ : Ascii.hexValue? b₃ = some d₃)
      (h₂ : Ascii.hexValue? b₂ = some d₂) (h₁ : Ascii.hexValue? b₁ = some d₁)
      (h₀ : Ascii.hexValue? b₀ = some d₀) :
      Hex (((d₃ * 16 + d₂) * 16 + d₁) * 16 + d₀) [b₃, b₂, b₁, b₀]

/-- The characters that have an escape of two, and the second of these. -/
def shortEscapes : List (Char × UInt8) :=
  [('"', 0x22), ('\\', 0x5C), ('/', 0x2F), ('\x08', 0x62), ('\x0C', 0x66), ('\n', 0x6E),
    ('\r', 0x72), ('\t', 0x74)]

/-- The ways to write a character between quotes. -/
inductive SpelledChar (c : Char) : Bytes → Prop
  | plain (hcontrol : 0x20 ≤ c.toNat) (hquote : c ≠ '"') (hslash : c ≠ '\\') :
      SpelledChar c (String.utf8EncodeChar c)
  | short {letter : UInt8} (h : (c, letter) ∈ shortEscapes) :
      SpelledChar c [Ascii.backslash, letter]
  | unit {ds : Bytes} (h : Hex c.toNat ds) : SpelledChar c (Ascii.backslash :: Ascii.lowerU :: ds)
  | pair {high low : Nat} {ds ds' : Bytes} (hhigh : Hex high ds) (hlow : Hex low ds')
      (hhighRange : 0xD800 ≤ high ∧ high < 0xDC00) (hlowRange : 0xDC00 ≤ low ∧ low < 0xE000)
      (hpoint : c.toNat = 0x10000 + (high - 0xD800) * 0x400 + (low - 0xDC00)) :
      SpelledChar c (Ascii.backslash :: Ascii.lowerU ::
        (ds ++ Ascii.backslash :: Ascii.lowerU :: ds'))

/-- The ways to write a text between quotes, with the closing one. -/
inductive SpelledText : List Char → Bytes → Prop
  | nil : SpelledText [] [Ascii.quote]
  | cons {c : Char} {cs : List Char} {piece key : Bytes} (hc : SpelledChar c piece)
      (hcs : SpelledText cs key) : SpelledText (c :: cs) (piece ++ key)

section Text

variable {s s' : TextState} {b : UInt8} {out rest done : Bytes}

theorem textOctets_cons (hb : ¬(s = .plain ∧ b = Ascii.quote)) (h : s.step b = some (s', out)) :
    textOctets s (b :: rest) done = textOctets s' rest (out.reverse ++ done) := by
  rw [textOctets, if_neg hb, h]

theorem textOctets_backslash :
    textOctets .plain (Ascii.backslash :: rest) done = textOctets .escape rest done := by
  have hstep : TextState.plain.step Ascii.backslash = some (.escape, []) := rfl
  exact textOctets_cons (by decide) hstep

theorem textOctets_escape_lowerU :
    textOctets .escape (Ascii.lowerU :: rest) done = textOctets (.hex 4 0 none) rest done := by
  have hstep : TextState.escape.step Ascii.lowerU = some (.hex 4 0 none, []) := rfl
  exact textOctets_cons (by decide) hstep

theorem textOctets_pair {high : Nat} :
    textOctets (.pair high) (Ascii.backslash :: Ascii.lowerU :: rest) done =
      textOctets (.hex 4 0 (some high)) rest done := by
  have hslash : TextState.step (.pair high) Ascii.backslash = some (.pairEscape high, []) := rfl
  have hu : TextState.step (.pairEscape high) Ascii.lowerU = some (.hex 4 0 (some high), []) := rfl
  rw [textOctets_cons (by simp) hslash]
  exact textOctets_cons (by simp) hu

/-- Four digits make up a code unit. -/
theorem textOctets_hex {unit : Nat} {ds : Bytes} {high? : Option Nat} (hds : Hex unit ds)
    (h : codeUnit unit high? = some (s', out)) :
    textOctets (.hex 4 0 high?) (ds ++ rest) done = textOctets s' rest (out.reverse ++ done) := by
  obtain @⟨b₃, b₂, b₁, b₀, d₃, d₂, d₁, d₀, h₃, h₂, h₁, h₀⟩ := hds
  have hmore : ∀ {due value digit : Nat} {b : UInt8} {rest : Bytes},
      Ascii.hexValue? b = some digit → ¬due ≤ 1 →
      textOctets (.hex due value high?) (b :: rest) done =
        textOctets (.hex (due - 1) (value * 16 + digit) high?) rest done := by
    intro due value digit b rest hb hdue
    have hstep : TextState.step (.hex due value high?) b =
        some (.hex (due - 1) (value * 16 + digit) high?, []) := by
      simp [TextState.step, hb, hdue]
    exact textOctets_cons (by simp) hstep
  simp only [List.cons_append, List.nil_append]
  rw [hmore h₃ (by decide), hmore h₂ (by decide), hmore h₁ (by decide)]
  refine textOctets_cons (by simp) ?_
  simpa [TextState.step, h₀] using h

theorem textOctets_plain {piece : Bytes} (h : ∀ b ∈ piece, b ≠ Ascii.quote ∧ b ≠ Ascii.backslash ∧
    0x20 ≤ b) : textOctets .plain (piece ++ rest) done =
      textOctets .plain rest (piece.reverse ++ done) := by
  induction piece generalizing done with
  | nil => rfl
  | cons b piece ih =>
    obtain ⟨hb, hpiece⟩ := List.forall_mem_cons.mp h
    obtain ⟨hquote, hslash, hcontrol⟩ := hb
    have hstep : TextState.plain.step b = some (.plain, [b]) := by
      simp [TextState.step, hslash, UInt8.not_lt.mpr hcontrol]
    rw [List.cons_append, textOctets_cons (fun hq => hquote hq.2) hstep, ih hpiece]
    simp

/-- Octets of a character that stands for itself. -/
theorem plain_of_mem_encodeChar {c : Char} (hcontrol : 0x20 ≤ c.toNat) (hquote : c ≠ '"')
    (hslash : c ≠ '\\') (hb : b ∈ String.utf8EncodeChar c) :
    b ≠ Ascii.quote ∧ b ≠ Ascii.backslash ∧ 0x20 ≤ b := by
  by_cases hascii : c.toNat < 0x80
  · rw [Utf8.encodeChar_of_ascii hascii, List.mem_singleton] at hb
    subst hb
    have hof : (UInt8.ofNat c.toNat).toNat = c.toNat := Utf8.toNat_ofNat (by omega)
    have hne : ∀ d : Char, c ≠ d → c.toNat ≠ d.toNat := fun d hd h => hd (Char.toNat_inj.mp h)
    refine ⟨?_, ?_, ?_⟩
    · rw [ne_eq, ← UInt8.toNat_inj, hof]
      exact hne '"' hquote
    · rw [ne_eq, ← UInt8.toNat_inj, hof]
      exact hne '\\' hslash
    · rw [UInt8.le_iff_toNat_le, hof]
      exact hcontrol
  · have hle := Utf8.le_of_mem_encodeChar (by omega) hb
    refine ⟨?_, ?_, ?_⟩
    · rintro rfl
      exact absurd hle (by decide)
    · rintro rfl
      exact absurd hle (by decide)
    · rw [UInt8.le_iff_toNat_le]
      exact le_trans (by decide) hle

/-- A short escape yields the one octet of its character. -/
theorem textOctets_short {c : Char} {letter : UInt8} (h : (c, letter) ∈ shortEscapes) :
    textOctets .plain (Ascii.backslash :: letter :: rest) done =
      textOctets .plain rest ((String.utf8EncodeChar c).reverse ++ done) := by
  rw [textOctets_backslash]
  simp only [shortEscapes, List.mem_cons, Prod.mk.injEq, List.not_mem_nil, or_false] at h
  rcases h with ⟨rfl, rfl⟩ | ⟨rfl, rfl⟩ | ⟨rfl, rfl⟩ | ⟨rfl, rfl⟩ | ⟨rfl, rfl⟩ | ⟨rfl, rfl⟩ |
    ⟨rfl, rfl⟩ | ⟨rfl, rfl⟩ <;> exact textOctets_cons (by decide) rfl

/-- Whatever its spelling, a character yields its octets. -/
theorem textOctets_spelledChar {c : Char} {piece : Bytes} (h : SpelledChar c piece) :
    textOctets .plain (piece ++ rest) done =
      textOctets .plain rest ((String.utf8EncodeChar c).reverse ++ done) := by
  cases h with
  | plain hcontrol hquote hslash =>
    exact textOctets_plain fun b hb => plain_of_mem_encodeChar hcontrol hquote hslash hb
  | short h => exact textOctets_short h
  | unit h =>
    have hunit : codeUnit c.toNat none = some (.plain, String.utf8EncodeChar c) := by
      have hvalid := Utf8.toNat_cases c
      rw [codeUnit, if_neg (by omega), if_neg (by omega), Char.ofNat_toNat]
    rw [List.cons_append, List.cons_append, textOctets_backslash, textOctets_escape_lowerU]
    exact textOctets_hex h hunit
  | @pair high low ds ds' hhigh hlow hhighRange hlowRange hpoint =>
    have hfirst : codeUnit high none = some (.pair high, []) := by
      rw [codeUnit, if_pos hhighRange]
    have hsecond : codeUnit low (some high) = some (.plain, String.utf8EncodeChar c) := by
      rw [codeUnit, if_pos hlowRange]
      dsimp only
      rw [← hpoint, Char.ofNat_toNat]
    simp only [List.cons_append, List.append_assoc]
    rw [textOctets_backslash, textOctets_escape_lowerU, textOctets_hex hhigh hfirst,
      List.reverse_nil, List.nil_append, textOctets_pair]
    exact textOctets_hex hlow hsecond

theorem textOctets_spelledText {cs : List Char} {key : Bytes} (h : SpelledText cs key) :
    textOctets .plain (key ++ rest) done =
      some (done.reverse ++ cs.flatMap String.utf8EncodeChar, rest) := by
  induction h generalizing done with
  | nil => simp [textOctets]
  | cons hc _ ih =>
    rw [List.append_assoc, textOctets_spelledChar hc, ih]
    simp

end Text

/-- A text is read from its spellings. -/
theorem text_spelled {s : String} {key : Bytes} (h : SpelledText s.toList key) (rest : Bytes) :
    text (key ++ rest) = some (s, rest) := by
  rw [text, textOctets_spelledText h, List.reverse_nil, List.nil_append]
  have hdecode : Utf8.decode? (s.toList.flatMap String.utf8EncodeChar) = some s :=
    Utf8.decode?_encode s
  simp only [hdecode]
  rfl

theorem quoted_of_spelled {s : String} {key : Bytes} (h : SpelledText s.toList key) :
    Quoted false key := by
  have hread := text_spelled h []
  obtain ⟨body, hbody, hquoted, -⟩ := exists_quoted_of_text hread
  rw [List.append_nil, List.append_nil] at hbody
  rw [hbody]
  exact hquoted

/-! ## Values -/

section Spells

variable {α : Type}

/-- What is written after white space. -/
def Spaced (P : α → Bytes → Prop) (a : α) (text : Bytes) : Prop :=
  ∃ spaces body, text = spaces ++ body ∧ Spaces spaces ∧ P a body

/-- A member, its name spelt in some way and its value written as `P` says. -/
inductive Named (P : Json → Bytes → Prop) (m : String × Json) : Bytes → Prop
  | mk {spaces key gap tail : Bytes} (hspaces : Spaces spaces) (hkey : SpelledText m.1.toList key)
      (hgap : Spaces gap) (hvalue : Spaced P m.2 tail) :
      Named P m (spaces ++ Ascii.quote :: (key ++ (gap ++ Ascii.colon :: tail)))

/-- The texts of a value whose brackets nest at most so deep. The members of an object are written
in the order in which they are given. -/
def Spells : Nat → Json → Bytes → Prop
  | _, .null, body => body = Utf8.encode "null"
  | _, .bool b, body => body = Utf8.encode (if b then "true" else "false")
  | _, .number literal, body => body = Utf8.encode literal
  | _, .string s, body => ∃ key, body = Ascii.quote :: key ∧ SpelledText s.toList key
  | 0, .array _, _ => False
  | 0, .object _, _ => False
  | depth + 1, .array vs, body => ∃ text, body = Ascii.openBracket :: text ∧
      Enclosed (Spaced (Spells depth)) Ascii.closeBracket vs text
  | depth + 1, .object ms, body => ∃ text, body = Ascii.openBrace :: text ∧
      Enclosed (Named (Spells depth)) Ascii.closeBrace ms text

end Spells

/-- A value that is read from its spellings as it is. -/
def Legible (v : Json) : Prop := ∀ depth body, Spells depth v body → Written depth v body

section Legible

variable {depth : Nat}

theorem written_word {v : Json} {b : UInt8} {word : Bytes}
    (hword : ∀ b' ∈ b :: word, Payload.Plain b' ∧ Payload.endsScalar b' = false)
    (hreads : ∀ depth rest, value depth (b :: (word ++ rest)) = some (v, rest)) :
    Written depth v (b :: word) :=
  written_scalar (fun b' hb' => (hword b' hb').1) (fun b' hb' => (hword b' hb').2)
    fun depth' rest _ => hreads depth' rest

theorem legible_null : Legible .null := by
  rintro depth body hbody
  obtain rfl : body = Utf8.encode "null" := by simpa only [Spells] using hbody
  change Written depth .null (Ascii.lowerN :: [0x75, 0x6C, 0x6C])
  refine written_word (by decide +kernel) fun depth rest => ?_
  rw [value_lowerN, afterNull, afterWord_eq_some_iff.mpr rfl]
  rfl

theorem legible_bool (b : Bool) : Legible (.bool b) := by
  rintro depth body hbody
  have hbody' : body = Utf8.encode (if b then "true" else "false") := by
    simpa only [Spells] using hbody
  subst hbody'
  cases b with
  | true =>
    change Written depth (.bool true) (Ascii.lowerT :: [0x72, 0x75, 0x65])
    refine written_word (by decide +kernel) fun depth rest => ?_
    rw [value_lowerT, afterTrue, afterWord_eq_some_iff.mpr rfl]
    rfl
  | false =>
    change Written depth (.bool false) (Ascii.lowerF :: [0x61, 0x6C, 0x73, 0x65])
    refine written_word (by decide +kernel) fun depth rest => ?_
    rw [value_lowerF, afterFalse, afterWord_eq_some_iff.mpr rfl]
    rfl

theorem legible_string (s : String) : Legible (.string s) := by
  rintro depth body hbody
  obtain ⟨key, rfl, hkey⟩ : ∃ key, body = Ascii.quote :: key ∧ SpelledText s.toList key := by
    simpa only [Spells] using hbody
  exact written_string (quoted_of_spelled hkey) (text_spelled hkey)

theorem spacedValue_of_spaced {v : Json} (hv : Legible v) {text : Bytes}
    (h : Spaced (Spells depth) v text) : SpacedValue depth v text := by
  obtain ⟨spaces, body, rfl, hs, hbody⟩ := h
  exact ⟨spaces, body, rfl, hs, hv depth body hbody⟩

theorem spacedMember_of_named {m : String × Json} (hv : Legible m.2) {text : Bytes}
    (h : Named (Spells depth) m text) : SpacedMember depth m text := by
  obtain ⟨hspaces, hkey, hgap, hvalue⟩ := h
  exact .mk hspaces (quoted_of_spelled hkey) (text_spelled hkey) hgap
    (spacedValue_of_spaced hv hvalue)

theorem legible_array {vs : List Json} (hvs : ∀ v ∈ vs, Legible v) : Legible (.array vs) := by
  intro depth body hbody
  cases depth with
  | zero => simp only [Spells] at hbody
  | succ depth =>
    simp only [Spells] at hbody
    obtain ⟨text, rfl, henclosed⟩ := hbody
    exact written_array (henclosed.imp fun v hv _ => spacedValue_of_spaced (hvs v hv))

theorem enclosed_members {ms : List (String × Json)} {text : Bytes}
    (hms : ∀ m ∈ ms, Legible m.2)
    (h : Enclosed (Named (Spells depth)) Ascii.closeBrace ms text) :
    Enclosed (SpacedMember depth) Ascii.closeBrace ms text :=
  h.imp fun m hm _ => spacedMember_of_named (hms m hm)

/-- An object of one member, whose name does not make it a number. -/
theorem legible_singleton {name : String} {v : Json} (hv : Legible v) (hname : name ≠ numberName) :
    Legible (.object [(name, v)]) := by
  intro depth body hbody
  cases depth with
  | zero => simp only [Spells] at hbody
  | succ depth =>
    simp only [Spells] at hbody
    obtain ⟨text, rfl, henclosed⟩ := hbody
    refine written_object (enclosed_members (by simpa using hv) henclosed) ?_
    rw [ofMembers?.eq_def]
    exact if_neg hname

end Legible

end RemoteSql.Json
