/-
# `html.escape` and `html.unescape`

`html.escape(text)` with its default `quote=True` writes a character reference for each of
`&`, `<`, `>`, `"` and `'`.  `html.unescape` replaces every character reference of a text,
named ones by the table `html.entities.html5`.  It reads an escaped text back
(`htmlUnescape_escape`).

`htmlTokens_render`: a page made of tags, numbers and escaped texts, split at its angle
brackets, is just these tags, numbers and texts again, whatever the texts are.
-/

import KovaWfb.Python.Dumps

namespace KovaWfb

/-! ### Escaping -/

/-- `&`, `<`, `>`, `"` and `'`, each with the rest of its character reference. -/
def htmlReferences : List (Char × List Char) :=
  [('&', ['a', 'm', 'p', ';']), ('<', ['l', 't', ';']), ('>', ['g', 't', ';']),
    ('"', ['q', 'u', 'o', 't', ';']), ('\'', ['#', 'x', '2', '7', ';'])]

/-- A character in a text. -/
def htmlEscapeChar (c : Char) : List Char :=
  match htmlReferences.find? fun reference => reference.1 = c with
  | some (_, reference) => '&' :: reference
  | none => [c]

/-- `html.escape(text)`. -/
def htmlEscape (text : List Char) : List Char := text.flatMap htmlEscapeChar

/-! ### Character references -/

/-- The tables of `html.unescape`, with the entries of what `html.escape` writes. -/
structure HtmlTables where
  /-- `html.entities.html5`. -/
  html5 : List Char → Option (List Char)
  /-- `_invalid_charrefs`. -/
  invalidCharrefs : ℕ → Option (List Char)
  /-- `_invalid_codepoints`. -/
  invalidCodepoints : ℕ → Bool
  amp : html5 ['a', 'm', 'p', ';'] = some ['&']
  lt : html5 ['l', 't', ';'] = some ['<']
  gt : html5 ['g', 't', ';'] = some ['>']
  quot : html5 ['q', 'u', 'o', 't', ';'] = some ['"']
  apostrophe_charref : invalidCharrefs 0x27 = none
  apostrophe_codepoint : invalidCodepoints 0x27 = false

/-- `start`, at least one and at most `limit` characters of a kind, and a semicolon if there
is one. -/
def charrefSpan (start : List Char) (kind : Char → Bool) (limit : ℕ) (cs : List Char) :
    Option (List Char) :=
  let body := (cs.takeWhile kind).take limit
  let rest := cs.drop body.length
  if body = [] then none
  else some (start ++ body ++ if rest.head? = some ';' then [';'] else [])

/-- What the group of
`&(#[0-9]+;?|#[xX][0-9a-fA-F]+;?|[^\t\n\f <&#;]{1,32};?)` matches behind an `&`. -/
def charref : List Char → Option (List Char)
  | '#' :: 'x' :: cs => charrefSpan ['#', 'x'] (fun c => (hexValue c).isSome) cs.length cs
  | '#' :: 'X' :: cs => charrefSpan ['#', 'X'] (fun c => (hexValue c).isSome) cs.length cs
  | '#' :: cs => charrefSpan ['#'] Char.isDigit cs.length cs
  | cs => charrefSpan [] (fun c => c ∉ ['\t', '\n', '\x0c', ' ', '<', '&', '#', ';']) 32 cs

/-- The number of a numeric reference, without its `#`. -/
def charrefNumber : List Char → ℕ
  | 'x' :: digits | 'X' :: digits => digitsValue 16 digits
  | digits => digitsValue 10 digits
where
  /-- `int(digits.rstrip(";"), base)`. -/
  digitsValue (base : ℕ) (digits : List Char) : ℕ :=
    (digits.filterMap digitValue).foldl (fun value digit => value * base + digit) 0

/-- `_replace_charref`. -/
def replaceCharref (tables : HtmlTables) : List Char → List Char
  | '#' :: digits =>
      let num := charrefNumber digits
      match tables.invalidCharrefs num with
      | some shown => shown
      | none =>
          if 0xD800 ≤ num ∧ num ≤ 0xDFFF ∨ 0x10FFFF < num then ['\uFFFD']
          else if tables.invalidCodepoints num then []
          else [Char.ofNat num]
  | name =>
      match tables.html5 name with
      | some shown => shown
      | none =>
          -- The longest name that it starts with, if one of at least two characters does.
          ((List.range' 2 (name.length - 2)).reverse.findSome? fun x =>
            (tables.html5 (name.take x)).map (· ++ name.drop x)).getD ('&' :: name)

/-- `html.unescape(text)`; the characters to skip belong to a reference. -/
def htmlUnescape (tables : HtmlTables) : ℕ → List Char → List Char
  | _, [] => []
  | skip + 1, _ :: cs => htmlUnescape tables skip cs
  | 0, c :: cs =>
      if c = '&' then
        match charref cs with
        | some reference => replaceCharref tables reference ++ htmlUnescape tables reference.length cs
        | none => c :: htmlUnescape tables 0 cs
      else c :: htmlUnescape tables 0 cs

theorem htmlEscapeChar_cases (c : Char) :
    (∃ reference, (c, reference) ∈ htmlReferences ∧ htmlEscapeChar c = '&' :: reference) ∨
      htmlEscapeChar c = [c] ∧ c ≠ '&' ∧ c ≠ '<' ∧ c ≠ '>' := by
  rw [htmlEscapeChar]
  cases hfind : htmlReferences.find? fun reference => reference.1 = c with
  | some found =>
    have hshown : found.1 = c := by simpa using List.find?_some hfind
    exact Or.inl ⟨found.2, hshown ▸ List.mem_of_find?_eq_some hfind, rfl⟩
  | none =>
    refine Or.inr ⟨rfl, ?_, ?_, ?_⟩ <;>
    · rintro rfl
      cases hfind

/-- A name of the table stands for its entry. -/
theorem replaceCharref_name {tables : HtmlTables} {c : Char} {name shown : List Char} (hc : c ≠ '#')
    (h : tables.html5 (c :: name) = some shown) : replaceCharref tables (c :: name) = shown := by
  rw [replaceCharref, h]
  intro digits hnumber
  exact hc (List.cons.inj hnumber).1

/-- What `html.escape` writes is a reference to what it stands for, whatever follows. -/
theorem charref_reference {c : Char} {reference : List Char} (h : (c, reference) ∈ htmlReferences)
    (tables : HtmlTables) (rest : List Char) :
    charref (reference ++ rest) = some reference ∧ replaceCharref tables reference = [c] := by
  simp only [htmlReferences, List.mem_cons, List.not_mem_nil, or_false, Prod.mk.injEq] at h
  obtain ⟨rfl, rfl⟩ | ⟨rfl, rfl⟩ | ⟨rfl, rfl⟩ | ⟨rfl, rfl⟩ | ⟨rfl, rfl⟩ := h
  · exact ⟨rfl, replaceCharref_name (by decide) tables.amp⟩
  · exact ⟨rfl, replaceCharref_name (by decide) tables.lt⟩
  · exact ⟨rfl, replaceCharref_name (by decide) tables.gt⟩
  · exact ⟨rfl, replaceCharref_name (by decide) tables.quot⟩
  · have hnumber : charrefNumber ['x', '2', '7', ';'] = 0x27 := by decide
    refine ⟨rfl, ?_⟩
    rw [replaceCharref, hnumber, tables.apostrophe_charref]
    dsimp only
    rw [if_neg (by decide), tables.apostrophe_codepoint]
    rfl

theorem htmlUnescape_append (tables : HtmlTables) (text rest : List Char) :
    htmlUnescape tables text.length (text ++ rest) = htmlUnescape tables 0 rest := by
  induction text with
  | nil => rfl
  | cons c text ih => exact ih

/-- An escaped character is read back. -/
theorem htmlUnescape_escapeChar (tables : HtmlTables) (c : Char) (rest : List Char) :
    htmlUnescape tables 0 (htmlEscapeChar c ++ rest) = c :: htmlUnescape tables 0 rest := by
  obtain ⟨reference, hmem, hescape⟩ | ⟨hescape, hamp, -⟩ := htmlEscapeChar_cases c
  · obtain ⟨hcharref, hshown⟩ := charref_reference hmem tables rest
    rw [hescape, List.cons_append, htmlUnescape, if_pos rfl, hcharref]
    dsimp only
    rw [hshown, htmlUnescape_append, List.singleton_append]
  · rw [hescape, List.singleton_append, htmlUnescape, if_neg hamp]

/-- **An escaped text is read back.** -/
theorem htmlUnescape_escape (tables : HtmlTables) (text : List Char) :
    htmlUnescape tables 0 (htmlEscape text) = text := by
  induction text with
  | nil => rfl
  | cons c text ih =>
    rw [htmlEscape, List.flatMap_cons, htmlUnescape_escapeChar]
    exact congrArg (c :: ·) ih

/-- An angle bracket. -/
def isBracket (c : Char) : Bool := c = '<' ∨ c = '>'

/-- It has no angle brackets. -/
theorem isBracket_htmlEscape {text : List Char} {c : Char} (h : c ∈ htmlEscape text) :
    isBracket c = false := by
  obtain ⟨shown, -, hc⟩ := List.mem_flatMap.mp h
  obtain ⟨reference, hmem, hescape⟩ | ⟨hescape, -, hlt, hgt⟩ := htmlEscapeChar_cases shown
  · rw [hescape] at hc
    have hall : ∀ reference ∈ htmlReferences, ('&' :: reference.2).any isBracket = false := by
      decide
    exact eq_false_of_ne_true (List.any_eq_false.mp (hall _ hmem) c hc)
  · rw [hescape, List.mem_singleton] at hc
    rw [hc, isBracket]
    exact decide_eq_false (not_or.mpr ⟨hlt, hgt⟩)

/-! ### Tags and texts -/

/-- What is in a pair of angle brackets, or between two. -/
inductive HtmlToken
  | tag (content : List Char)
  | text (shown : List Char)
  deriving DecidableEq

section

variable (tables : HtmlTables)

/-- A text between two tags, if it has any characters. -/
def textToken (raw : List Char) : List HtmlToken :=
  if raw = [] then [] else [.text (htmlUnescape tables 0 raw)]

/-- Texts and tags in turn. -/
def bracketTokens : List (List Char) → List HtmlToken
  | [] => []
  | [text] => textToken tables text
  | text :: tag :: rest => textToken tables text ++ .tag tag :: bracketTokens rest

/-- `re.split("[<>]", page)`, with the texts read by `html.unescape`. -/
def htmlTokens (page : List Char) : List HtmlToken := bracketTokens tables (page.splitOnP isBracket)

end

/-! ### Pages -/

/-- What a page is made of: a tag with its attributes, a number, or a text to be escaped. -/
inductive HtmlPiece
  | tag (name : String) (attributes : List (String × List Char))
  | number (value : ℤ)
  | text (shown : List Char)

/-- ` name="value"`. -/
def htmlAttribute (attr : String × List Char) : List Char :=
  ' ' :: attr.1.toList ++ '=' :: '"' :: attr.2 ++ ['"']

/-- What stands between `<` and `>`. -/
def tagContent (name : String) (attributes : List (String × List Char)) : List Char :=
  name.toList ++ attributes.flatMap htmlAttribute

/-- A piece as it is written. -/
def HtmlPiece.render : HtmlPiece → List Char
  | .tag name attributes => '<' :: tagContent name attributes ++ ['>']
  | .number value => decimalChars value
  | .text shown => htmlEscape shown

/-- A character of a value that does not close its quotes. -/
def ValueChar (c : Char) : Prop := c ≠ '"' ∧ isBracket c = false

instance : DecidablePred ValueChar := fun c =>
  inferInstanceAs (Decidable (c ≠ '"' ∧ isBracket c = false))

/-- A tag is clean when its names and values have no angle brackets, and no value closes its
quotes. -/
def HtmlPiece.Clean : HtmlPiece → Prop
  | .tag name attributes => (∀ c ∈ name.toList, isBracket c = false) ∧
      ∀ attr ∈ attributes, (∀ c ∈ attr.1.toList, isBracket c = false) ∧ ∀ c ∈ attr.2, ValueChar c
  | .number _ | .text _ => True

/-- A text that is shown, if it has any characters. -/
def shownToken (shown : List Char) : List HtmlToken := if shown = [] then [] else [.text shown]

/-- The tokens of a page, behind what is already shown of a text: neighbouring texts are one. -/
def pieceTokens : List Char → List HtmlPiece → List HtmlToken
  | shown, [] => shownToken shown
  | shown, .tag name attributes :: pieces =>
      shownToken shown ++ .tag (tagContent name attributes) :: pieceTokens [] pieces
  | shown, .number value :: pieces => pieceTokens (shown ++ decimalChars value) pieces
  | shown, .text text :: pieces => pieceTokens (shown ++ text) pieces

section

variable {tables : HtmlTables} {shown rest : List Char} {pieces : List HtmlPiece}

/-- A number has nothing to escape. -/
theorem htmlEscape_decimalChars (value : ℤ) : htmlEscape (decimalChars value) = decimalChars value := by
  have hplain : ∀ c ∈ decimalChars value, htmlEscapeChar c = [c] := by
    intro c hc
    obtain ⟨reference, hmem, -⟩ | ⟨hescape, -⟩ := htmlEscapeChar_cases c
    · have hall : ∀ reference ∈ htmlReferences, reference.1 ≠ '-' ∧
          ¬ (0x30 ≤ reference.1.toNat ∧ reference.1.toNat ≤ 0x39) := by decide
      obtain ⟨hsign, hdigit⟩ := hall _ hmem
      exact absurd (mem_decimalChars hc) (not_or.mpr ⟨hsign, hdigit⟩)
    · exact hescape
  rw [htmlEscape, List.flatMap_congr hplain, List.flatMap_singleton']

theorem htmlEscape_append (text more : List Char) :
    htmlEscape (text ++ more) = htmlEscape text ++ htmlEscape more := List.flatMap_append

theorem textToken_escape (shown : List Char) :
    textToken tables (htmlEscape shown) = shownToken shown := by
  have hnil : htmlEscape shown = [] ↔ shown = [] := by
    constructor
    · intro h
      rw [← htmlUnescape_escape tables shown, h]
      rfl
    · rintro rfl
      rfl
  rw [textToken, shownToken, htmlUnescape_escape]
  simp only [hnil]

theorem isBracket_tagContent {name : String} {attributes : List (String × List Char)}
    (h : (HtmlPiece.tag name attributes).Clean) :
    ∀ c ∈ tagContent name attributes, isBracket c = false := by
  rw [tagContent, List.forall_mem_append, List.forall_mem_flatMap]
  refine ⟨h.1, fun attr hattr => ?_⟩
  simp only [htmlAttribute, List.forall_mem_append, List.forall_mem_cons]
  exact ⟨⟨⟨rfl, (h.2 attr hattr).1⟩, rfl, rfl, fun c hc => ((h.2 attr hattr).2 c hc).2⟩, rfl,
    fun _ hc => absurd hc List.not_mem_nil⟩

/-- **A clean tag is one token.** -/
theorem htmlTokens_tag {name : String} {attributes : List (String × List Char)}
    (h : (HtmlPiece.tag name attributes).Clean) :
    htmlTokens tables (htmlEscape shown ++ ((HtmlPiece.tag name attributes).render ++ rest)) =
      shownToken shown ++ .tag (tagContent name attributes) :: htmlTokens tables rest := by
  have hrender : htmlEscape shown ++ ((HtmlPiece.tag name attributes).render ++ rest) =
      htmlEscape shown ++ '<' :: (tagContent name attributes ++ '>' :: rest) := by
    simp only [HtmlPiece.render, List.cons_append, List.append_assoc, List.nil_append]
  have hsplit : (htmlEscape shown ++ '<' :: (tagContent name attributes ++ '>' :: rest)).splitOnP
      isBracket = htmlEscape shown :: tagContent name attributes :: rest.splitOnP isBracket := by
    rw [List.splitOnP_append_cons_of_forall_mem (fun c hc => isBracket_htmlEscape hc) '<' rfl,
      List.splitOnP_append_cons_of_forall_mem (isBracket_tagContent h) '>' rfl]
  rw [hrender, htmlTokens, hsplit, bracketTokens, textToken_escape]
  rfl

/-- **A page is read as it was made**: its tags, numbers and texts come back, whatever the
texts are. -/
theorem htmlTokens_render (h : ∀ piece ∈ pieces, piece.Clean) (shown : List Char) :
    htmlTokens tables (htmlEscape shown ++ pieces.flatMap HtmlPiece.render) =
      pieceTokens shown pieces := by
  induction pieces generalizing shown with
  | nil =>
    rw [List.flatMap_nil, List.append_nil, htmlTokens,
      List.splitOnP_eq_singleton fun c hc => isBracket_htmlEscape hc]
    exact textToken_escape shown
  | cons piece pieces ih =>
    obtain ⟨hpiece, hrest⟩ := List.forall_mem_cons.mp h
    have hescaped : ∀ more, htmlTokens tables (htmlEscape shown ++ (htmlEscape more ++
        pieces.flatMap HtmlPiece.render)) = pieceTokens (shown ++ more) pieces := by
      intro more
      rw [← List.append_assoc, ← htmlEscape_append, ih hrest]
    rw [List.flatMap_cons]
    cases piece with
    | tag name attributes =>
      rw [htmlTokens_tag hpiece, pieceTokens]
      exact congrArg (shownToken shown ++ .tag (tagContent name attributes) :: ·) (ih hrest [])
    | number value =>
      rw [pieceTokens, ← hescaped, htmlEscape_decimalChars]
      rfl
    | text more => exact hescaped more

end

end KovaWfb
