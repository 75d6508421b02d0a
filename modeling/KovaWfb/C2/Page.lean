/-
# The page of the C2 server

`render_html` of `python/examples/c2_http_server.py`, lines 297 to 418: a table with one row
for each node and, for the images, a line of script that draws it.

What a node sends (`payload_text`), what it says it sends (`inner_type`) and what a gateway
says of itself (`gateway_id`) is not trusted.  `htmlTokens_tablePieces`: whoever splits the
table at its angle brackets and reads what stands between the tags by `html.unescape` finds
each of them as the text of its cell, and only the tags of the server.  An image is a string
of the script, in characters that do not end it (`splitOn_drawLine`).

The style sheet and the script that polls are constant and stand in `PageText.head`.
-/

import KovaWfb.C2.Server
import KovaWfb.Python.Html

namespace KovaWfb

/-! ### The table -/

/-- The constant part of the page, and `str` of floats, lists and objects. -/
structure PageText where
  head : List Char
  repr : Json → String

/-- `str(value)`. -/
def PageText.str (page : PageText) : Json → String
  | .null => "None"
  | .bool value => if value then "True" else "False"
  | .int value => toString value
  | .str text => text
  | value => page.repr value

/-- The `id` of an element of a row. -/
def elementId (kind : String) (event : C2Event) : String × List Char :=
  ("id", kind.toList ++ '_' :: decimalChars event.originId)

/-- A cell. -/
def tableCell (attributes : List (String × List Char)) (content : List HtmlPiece) : List HtmlPiece :=
  .tag "td" attributes :: content ++ [.tag "/td" []]

/-- The last cell of a row: the canvas of an image, or the text. -/
def payloadCell (event : C2Event) : List HtmlPiece :=
  match event.image with
  | some image =>
      [.tag "canvas" [elementId "img" event, ("class", "image-preview".toList),
        ("width", decimalChars image.width), ("height", decimalChars image.height)],
        .tag "/canvas" []]
  | none => [.tag "code" [elementId "txt" event], .text event.payloadText.toList, .tag "/code" []]

/-- The row of an event. -/
def eventRow (page : PageText) (event : C2Event) : List HtmlPiece :=
  .tag "tr" [] ::
    tableCell [] [.number event.originId] ++
    tableCell [elementId "time" event] [.number event.receivedAtMs] ++
    tableCell [elementId "seq" event] [.number event.originSeq] ++
    tableCell [] [.text event.innerType.toList] ++
    tableCell [] [.text (page.str event.gatewayId).toList] ++
    tableCell [] [.number event.keyId, .text ":".toList, .number event.keyEpoch] ++
    tableCell [("class", "payload".toList)] (payloadCell event) ++
    [.tag "/tr" []]

/-- The names of the columns. -/
def tableColumns : List String := ["Node", "UTC ms", "Seq", "Type", "Gateway", "Key", "Payload"]

/-- The first row. -/
def headerRow : List HtmlPiece :=
  .tag "tr" [] ::
    tableColumns.flatMap (fun column => [.tag "th" [], .text column.toList, .tag "/th" []]) ++
    [.tag "/tr" []]

/-- The table, one row on a line. -/
def tablePieces (page : PageText) (latest : List C2Event) : List HtmlPiece :=
  if latest.isEmpty then
    [.tag "p" [("class", "empty".toList)], .text "No payloads received yet.".toList, .tag "/p" []]
  else
    [.tag "table" [], .text ['\n']] ++ headerRow ++
      latest.flatMap (fun event => .text ['\n'] :: eventRow page event) ++
      [.text ['\n'], .tag "/table" []]

/-- A string of the script. -/
def quoted (content : List Char) : List Char := '\'' :: content ++ ['\'']

/-- The line that draws an image. -/
def drawLine (event : C2Event) (image : EventImage) : List Char :=
  "drawImage(".toList ++ quoted ("img_".toList ++ decimalChars event.originId) ++ ", ".toList ++
    quoted image.dataB64.toList ++ ", ".toList ++ decimalChars image.width ++ ", ".toList ++
    decimalChars image.height ++ ", ".toList ++ quoted image.pixelFormat.toList ++ ");".toList

/-- The lines behind the table. -/
def drawLines (latest : List C2Event) : List (List Char) :=
  latest.filterMap fun event => event.image.map (drawLine event)

/-- `"\n".join(parts)`. -/
def joinLines : List (List Char) → List Char
  | [] => []
  | [line] => line
  | line :: lines => line ++ '\n' :: joinLines lines

/-- `render_html`. -/
def renderHtml (page : PageText) (latest : List C2Event) : Bytes :=
  encodeChars (joinLines ([page.head, (tablePieces page latest).flatMap HtmlPiece.render,
    "<script>".toList] ++ drawLines latest ++
    ["</script>".toList, "</body>".toList, "</html>".toList]))

/-! ### What the table says -/

/-- A tag of the server. -/
def tagToken (name : String) (attributes : List (String × List Char)) : HtmlToken :=
  .tag (tagContent name attributes)

/-- A cell that shows a text. -/
def cellTokens (attributes : List (String × List Char)) (content : List HtmlToken) : List HtmlToken :=
  tagToken "td" attributes :: content ++ [tagToken "/td" []]

/-- The last cell of a row. -/
def payloadTokens (event : C2Event) : List HtmlToken :=
  match event.image with
  | some image =>
      [tagToken "canvas" [elementId "img" event, ("class", "image-preview".toList),
        ("width", decimalChars image.width), ("height", decimalChars image.height)],
        tagToken "/canvas" []]
  | none => tagToken "code" [elementId "txt" event] :: shownToken event.payloadText.toList ++
      [tagToken "/code" []]

/-- A row: the ids, the time, what the node and the gateway said, the key and the payload. -/
def rowTokens (page : PageText) (event : C2Event) : List HtmlToken :=
  tagToken "tr" [] ::
    cellTokens [] (shownToken (decimalChars event.originId)) ++
    cellTokens [elementId "time" event] (shownToken (decimalChars event.receivedAtMs)) ++
    cellTokens [elementId "seq" event] (shownToken (decimalChars event.originSeq)) ++
    cellTokens [] (shownToken event.innerType.toList) ++
    cellTokens [] (shownToken (page.str event.gatewayId).toList) ++
    cellTokens [] (shownToken (decimalChars event.keyId ++ ':' :: decimalChars event.keyEpoch)) ++
    cellTokens [("class", "payload".toList)] (payloadTokens event) ++
    [tagToken "/tr" []]

/-- The rows of a table, each on a line. -/
def tableTokens (page : PageText) (latest : List C2Event) : List HtmlToken :=
  if latest.isEmpty then
    [tagToken "p" [("class", "empty".toList)], .text "No payloads received yet.".toList,
      tagToken "/p" []]
  else
    [tagToken "table" [], .text ['\n']] ++ pieceTokens [] headerRow ++
      latest.flatMap (fun event => .text ['\n'] :: rowTokens page event) ++
      [.text ['\n'], tagToken "/table" []]

section

variable {page : PageText} {event : C2Event} {latest : List C2Event}

theorem pieceTokens_tableCell {attributes : List (String × List Char)} {content rest : List HtmlPiece}
    {tokens : List HtmlToken}
    (h : ∀ more, pieceTokens [] (content ++ .tag "/td" [] :: more) =
      tokens ++ tagToken "/td" [] :: pieceTokens [] more) :
    pieceTokens [] (tableCell attributes content ++ rest) =
      cellTokens attributes tokens ++ pieceTokens [] rest := by
  rw [tableCell, List.append_assoc, List.cons_append, pieceTokens, List.singleton_append, h,
    cellTokens]
  simp only [shownToken, if_pos, List.nil_append, List.cons_append, List.append_assoc, tagToken]

/-- The key is one text: the id, a colon and the epoch. -/
theorem pieceTokens_key (more : List HtmlPiece) :
    pieceTokens [] ([.number event.keyId, .text ":".toList, .number event.keyEpoch] ++
        .tag "/td" [] :: more) =
      shownToken (decimalChars event.keyId ++ ':' :: decimalChars event.keyEpoch) ++
        tagToken "/td" [] :: pieceTokens [] more := by
  show shownToken ([] ++ decimalChars event.keyId ++ [':'] ++ decimalChars event.keyEpoch) ++
    tagToken "/td" [] :: pieceTokens [] more = _
  rw [List.nil_append, List.append_assoc, List.singleton_append]

theorem pieceTokens_payload (more : List HtmlPiece) :
    pieceTokens [] (payloadCell event ++ .tag "/td" [] :: more) =
      payloadTokens event ++ tagToken "/td" [] :: pieceTokens [] more := by
  rw [payloadCell, payloadTokens]
  cases event.image with
  | some image => rfl
  | none =>
    show tagToken "code" [elementId "txt" event] :: (shownToken event.payloadText.toList ++
      tagToken "/code" [] :: tagToken "/td" [] :: pieceTokens [] more) = _
    simp only [List.cons_append, List.append_assoc, List.nil_append]

/-- **A row is read as it was made**, behind a line break. -/
theorem pieceTokens_eventRow (rest : List HtmlPiece) :
    pieceTokens [] (.text ['\n'] :: eventRow page event ++ rest) =
      .text ['\n'] :: rowTokens page event ++ pieceTokens [] rest := by
  simp only [eventRow, rowTokens, List.cons_append, List.append_assoc]
  show .text ['\n'] :: tagToken "tr" [] :: pieceTokens [] (tableCell _ _ ++ _) = _
  rw [pieceTokens_tableCell fun _ => rfl, pieceTokens_tableCell fun _ => rfl,
    pieceTokens_tableCell fun _ => rfl, pieceTokens_tableCell fun _ => rfl,
    pieceTokens_tableCell fun _ => rfl, pieceTokens_tableCell pieceTokens_key,
    pieceTokens_tableCell pieceTokens_payload]
  rfl

theorem pieceTokens_rows (rest : List HtmlPiece) :
    pieceTokens [] (latest.flatMap (fun event => .text ['\n'] :: eventRow page event) ++ rest) =
      latest.flatMap (fun event => .text ['\n'] :: rowTokens page event) ++ pieceTokens [] rest := by
  induction latest with
  | nil => rfl
  | cons event latest ih =>
    rw [List.flatMap_cons, List.append_assoc, pieceTokens_eventRow, ih, List.flatMap_cons,
      List.append_assoc]

theorem pieceTokens_tablePieces :
    pieceTokens [] (tablePieces page latest) = tableTokens page latest := by
  rw [tablePieces, tableTokens]
  split_ifs
  · rfl
  · have hheader : ∀ rest, pieceTokens [] ([.tag "table" [], .text ['\n']] ++ headerRow ++ rest) =
        [tagToken "table" [], .text ['\n']] ++ pieceTokens [] headerRow ++ pieceTokens [] rest :=
      fun _ => rfl
    rw [List.append_assoc, hheader, pieceTokens_rows, List.append_assoc]
    rfl

/-- A payload that is no image is the text of its cell. -/
theorem text_mem_tableTokens (hevent : event ∈ latest) (himage : event.image = none)
    (htext : event.payloadText.toList ≠ []) :
    .text event.payloadText.toList ∈ tableTokens page latest := by
  have hpayload : .text event.payloadText.toList ∈ payloadTokens event := by
    rw [payloadTokens, himage, shownToken, if_neg htext]
    exact List.mem_cons_of_mem _ List.mem_cons_self
  have hrow : .text event.payloadText.toList ∈ rowTokens page event :=
    List.mem_append_left _ (List.mem_append_right _
      (List.mem_append_left _ (List.mem_cons_of_mem _ hpayload)))
  have hnonempty : ¬ latest.isEmpty = true := fun h => List.ne_nil_of_mem hevent (List.isEmpty_iff.mp h)
  rw [tableTokens, if_neg hnonempty]
  exact List.mem_append_left _ (List.mem_append_right _
    (List.mem_flatMap.mpr ⟨event, hevent, List.mem_cons_of_mem _ hrow⟩))

/-! ### The tags are the server's -/

/-- The tags and the attributes of the table. -/
def tableTags : List String :=
  ["p", "/p", "table", "/table", "tr", "/tr", "th", "/th", "td", "/td", "code", "/code", "canvas",
    "/canvas"]
def tableAttributes : List String := ["id", "class", "width", "height"]

theorem clean_tag {name : String} {attributes : List (String × List Char)} (hname : name ∈ tableTags)
    (hattributes : ∀ attr ∈ attributes, attr.1 ∈ tableAttributes ∧ ∀ c ∈ attr.2, ValueChar c) :
    (HtmlPiece.tag name attributes).Clean := by
  have hnames : ∀ name ∈ tableTags ++ tableAttributes, ∀ c ∈ name.toList, isBracket c = false := by
    simp [tableTags, tableAttributes, isBracket]
  refine ⟨hnames name (List.mem_append_left _ hname), fun attr hattr => ?_⟩
  obtain ⟨hattrName, hvalue⟩ := hattributes attr hattr
  exact ⟨hnames _ (List.mem_append_right _ hattrName), hvalue⟩

theorem valueChar_decimalChars {value : ℤ} {c : Char} (h : c ∈ decimalChars value) : ValueChar c := by
  obtain rfl | hdigit := mem_decimalChars h
  · decide
  · refine ⟨?_, decide_eq_false (not_or.mpr ⟨?_, ?_⟩)⟩ <;> rintro rfl <;>
      exact absurd hdigit (by decide)

theorem clean_elementId {kind : String} (hkind : kind ∈ ["time", "seq", "img", "txt"]) :
    (elementId kind event).1 ∈ tableAttributes ∧ ∀ c ∈ (elementId kind event).2, ValueChar c := by
  have hkinds : ∀ kind ∈ ["time", "seq", "img", "txt"], ∀ c ∈ kind.toList, ValueChar c := by
    simp [ValueChar, isBracket]
  refine ⟨List.mem_cons_self, fun c hc => ?_⟩
  obtain hc | hc := List.mem_append.mp hc
  · exact hkinds kind hkind c hc
  · obtain rfl | hc := List.mem_cons.mp hc
    · decide
    · exact valueChar_decimalChars hc

theorem clean_tableCell {attributes : List (String × List Char)} {content : List HtmlPiece}
    (hattributes : ∀ attr ∈ attributes, attr.1 ∈ tableAttributes ∧ ∀ c ∈ attr.2, ValueChar c)
    (hcontent : ∀ piece ∈ content, piece.Clean) :
    ∀ piece ∈ tableCell attributes content, piece.Clean := by
  rw [tableCell, List.forall_mem_append, List.forall_mem_cons, List.forall_mem_singleton]
  exact ⟨⟨clean_tag (by decide) hattributes, hcontent⟩,
    clean_tag (by decide) fun _ h => absurd h List.not_mem_nil⟩

theorem clean_payloadCell : ∀ piece ∈ payloadCell event, piece.Clean := by
  rw [payloadCell]
  cases event.image with
  | some image =>
    dsimp only
    rw [List.forall_mem_cons, List.forall_mem_singleton]
    refine ⟨clean_tag (by decide) ?_, clean_tag (by decide) fun _ h => absurd h List.not_mem_nil⟩
    rw [List.forall_mem_cons, List.forall_mem_cons, List.forall_mem_cons, List.forall_mem_singleton]
    exact ⟨clean_elementId (by decide), ⟨by decide, by simp [ValueChar, isBracket]⟩,
      ⟨(by decide : "width" ∈ tableAttributes), fun c hc => valueChar_decimalChars hc⟩,
      ⟨(by decide : "height" ∈ tableAttributes), fun c hc => valueChar_decimalChars hc⟩⟩
  | none =>
    dsimp only
    rw [List.forall_mem_cons, List.forall_mem_cons, List.forall_mem_singleton]
    exact ⟨clean_tag (by decide) (List.forall_mem_singleton.mpr (clean_elementId (by decide))),
      trivial, clean_tag (by decide) fun _ h => absurd h List.not_mem_nil⟩

theorem clean_eventRow : ∀ piece ∈ eventRow page event, piece.Clean := by
  have hnone : ∀ attr ∈ ([] : List (String × List Char)), attr.1 ∈ tableAttributes ∧
      ∀ c ∈ attr.2, ValueChar c := fun _ h => absurd h List.not_mem_nil
  have hid : ∀ kind ∈ ["time", "seq", "img", "txt"], ∀ attr ∈ [elementId kind event],
      attr.1 ∈ tableAttributes ∧ ∀ c ∈ attr.2, ValueChar c := fun kind hkind =>
    List.forall_mem_singleton.mpr (clean_elementId hkind)
  have htext : ∀ text, ∀ piece ∈ [HtmlPiece.text text], piece.Clean := fun _ =>
    List.forall_mem_singleton.mpr trivial
  have hnumber : ∀ value, ∀ piece ∈ [HtmlPiece.number value], piece.Clean := fun _ =>
    List.forall_mem_singleton.mpr trivial
  simp only [eventRow, List.forall_mem_append, List.forall_mem_cons]
  refine ⟨⟨⟨⟨⟨⟨⟨⟨clean_tag (by decide) hnone, clean_tableCell hnone (hnumber _)⟩,
    clean_tableCell (hid _ (by decide)) (hnumber _)⟩, clean_tableCell (hid _ (by decide)) (hnumber _)⟩,
    clean_tableCell hnone (htext _)⟩, clean_tableCell hnone (htext _)⟩, clean_tableCell hnone ?_⟩,
    clean_tableCell (List.forall_mem_singleton.mpr ⟨by decide, by simp [ValueChar, isBracket]⟩)
      clean_payloadCell⟩, clean_tag (by decide) hnone, fun _ h => absurd h List.not_mem_nil⟩
  rw [List.forall_mem_cons, List.forall_mem_cons, List.forall_mem_singleton]
  exact ⟨trivial, trivial, trivial⟩

theorem clean_tablePieces : ∀ piece ∈ tablePieces page latest, piece.Clean := by
  have hnone : ∀ attr ∈ ([] : List (String × List Char)), attr.1 ∈ tableAttributes ∧
      ∀ c ∈ attr.2, ValueChar c := fun _ h => absurd h List.not_mem_nil
  have hcolumn : ∀ column ∈ tableColumns, ∀ piece ∈
      [HtmlPiece.tag "th" [], .text column.toList, .tag "/th" []], piece.Clean := by
    intro column _
    rw [List.forall_mem_cons, List.forall_mem_cons, List.forall_mem_singleton]
    exact ⟨clean_tag (by decide) hnone, trivial, clean_tag (by decide) hnone⟩
  have hheader : ∀ piece ∈ headerRow, piece.Clean := by
    rw [headerRow, List.forall_mem_append, List.forall_mem_cons, List.forall_mem_singleton]
    exact ⟨⟨clean_tag (by decide) hnone, List.forall_mem_flatMap.mpr hcolumn⟩,
      clean_tag (by decide) hnone⟩
  have hrows : ∀ piece ∈ latest.flatMap fun event => .text ['\n'] :: eventRow page event,
      piece.Clean :=
    List.forall_mem_flatMap.mpr fun _ _ => List.forall_mem_cons.mpr ⟨trivial, clean_eventRow⟩
  rw [tablePieces]
  split_ifs
  · rw [List.forall_mem_cons, List.forall_mem_cons, List.forall_mem_singleton]
    exact ⟨clean_tag (by decide)
      (List.forall_mem_singleton.mpr ⟨by decide, by simp [ValueChar, isBracket]⟩),
      trivial, clean_tag (by decide) hnone⟩
  · simp only [List.forall_mem_append, List.forall_mem_cons]
    exact ⟨⟨⟨⟨clean_tag (by decide) hnone, trivial, fun _ h => absurd h List.not_mem_nil⟩, hheader⟩,
      hrows⟩, trivial, clean_tag (by decide) hnone, fun _ h => absurd h List.not_mem_nil⟩

/-- **The table is read as it was made**: the tags are those of the server, and what a node
and a gateway sent is the text of its cell. -/
theorem htmlTokens_tablePieces (tables : HtmlTables) (page : PageText) (latest : List C2Event) :
    htmlTokens tables ((tablePieces page latest).flatMap HtmlPiece.render) = tableTokens page latest :=
  (htmlTokens_render clean_tablePieces []).trans pieceTokens_tablePieces

end

/-! ### The script -/

/-- A printable ASCII character that begins no tag and no escape. -/
def PlainChar (c : Char) : Prop := 0x20 ≤ c.toNat ∧ c.toNat ≤ 0x7e ∧ c ≠ '<' ∧ c ≠ '\\'

/-- One that stands for itself between single quotes. -/
def ScriptChar (c : Char) : Prop := PlainChar c ∧ c ≠ '\''

instance : DecidablePred ScriptChar := fun c =>
  inferInstanceAs (Decidable ((0x20 ≤ c.toNat ∧ c.toNat ≤ 0x7e ∧ c ≠ '<' ∧ c ≠ '\\') ∧ c ≠ '\''))

theorem scriptChar_base64Chars : ∀ data : Bytes, ∀ c ∈ base64Chars data, ScriptChar c := by
  have hdigit : ∀ n < 64, ScriptChar (base64Digit n) := by decide
  have hpad : ScriptChar '=' := by decide
  intro data
  induction data using base64Chars.induct with
  | case1 => exact fun _ h => absurd h List.not_mem_nil
  | case2 a =>
    have ha := UInt8.toNat_lt a
    simp only [base64Chars, List.forall_mem_cons]
    exact ⟨hdigit _ (by omega), hdigit _ (by omega), hpad, hpad, fun _ h => absurd h List.not_mem_nil⟩
  | case3 a b =>
    have ha := UInt8.toNat_lt a
    have hb := UInt8.toNat_lt b
    simp only [base64Chars, List.forall_mem_cons]
    exact ⟨hdigit _ (by omega), hdigit _ (by omega), hdigit _ (by omega), hpad,
      fun _ h => absurd h List.not_mem_nil⟩
  | case4 a b c rest ih =>
    have ha := UInt8.toNat_lt a
    have hb := UInt8.toNat_lt b
    have hc := UInt8.toNat_lt c
    simp only [base64Chars, List.forall_mem_cons]
    exact ⟨hdigit _ (by omega), hdigit _ (by omega), hdigit _ (by omega), hdigit _ (by omega), ih⟩

/-- The image of an event can stand between quotes. -/
theorem scriptChar_image {plaintext : Bytes} {image : EventImage} {payloadText : String}
    (h : eventContent plaintext = .ok (some image, payloadText)) :
    (∀ c ∈ image.dataB64.toList, ScriptChar c) ∧ ∀ c ∈ image.pixelFormat.toList, ScriptChar c := by
  unfold eventContent at h
  split_ifs at h
  · obtain ⟨width, -, h⟩ := Py.bind_eq_ok.mp h
    obtain ⟨height, -, h⟩ := Py.bind_eq_ok.mp h
    obtain ⟨pixelFormat, -, h⟩ := Py.bind_eq_ok.mp h
    obtain rfl := Option.some.inj (Prod.ext_iff.mp (Py.pure_eq_ok.mp h)).1
    refine ⟨?_, ?_⟩
    · dsimp only
      rw [b64encode, String.toList_ofList]
      exact scriptChar_base64Chars _
    · dsimp only
      split_ifs <;> simp [ScriptChar, PlainChar]
  · cases h

/-- What the line of an image says: the canvas, the data and the format between its quotes,
and code before, between and behind them. -/
def drawParts (event : C2Event) (image : EventImage) : List (List Char) :=
  ["drawImage(".toList, "img_".toList ++ decimalChars event.originId, ", ".toList,
    image.dataB64.toList,
    ", ".toList ++ decimalChars image.width ++ ", ".toList ++ decimalChars image.height ++ ", ".toList,
    image.pixelFormat.toList, ");".toList]

theorem scriptChar_decimalChars {value : ℤ} {c : Char} (h : c ∈ decimalChars value) : ScriptChar c := by
  obtain rfl | hdigit := mem_decimalChars h
  · decide
  · refine ⟨⟨by omega, by omega, ?_, ?_⟩, ?_⟩ <;> rintro rfl <;> exact absurd hdigit (by decide)

/-- The quotes are plain, too. -/
theorem plainChar_intercalate {parts : List (List Char)}
    (h : ∀ part ∈ parts, ∀ c ∈ part, ScriptChar c) : ∀ c ∈ ['\''].intercalate parts, PlainChar c := by
  intro c hc
  have hquote : PlainChar '\'' := ⟨by decide, by decide, by decide, by decide⟩
  induction parts with
  | nil => cases hc
  | cons part parts ih =>
    rw [List.forall_mem_cons] at h
    cases parts with
    | nil =>
      rw [List.intercalate_singleton] at hc
      exact (h.1 c hc).1
    | cons next parts =>
      rw [List.intercalate_cons_cons, List.append_assoc, List.mem_append, List.mem_append,
        List.mem_singleton] at hc
      obtain hc | rfl | hc := hc
      · exact (h.1 c hc).1
      · exact hquote
      · exact ih h.2 hc

/-- A call with three strings and a size, over any texts: the literals of the line would be
unfolded at every step. -/
theorem call_eq_intercalate (start canvas comma data width height format last : List Char) :
    start ++ quoted canvas ++ comma ++ quoted data ++ comma ++ width ++ comma ++ height ++ comma ++
        quoted format ++ last =
      ['\''].intercalate [start, canvas, comma, data, comma ++ width ++ comma ++ height ++ comma,
        format, last] := by
  simp only [List.intercalate_cons_cons, List.intercalate_singleton, quoted, List.append_assoc,
    List.cons_append, List.nil_append]

theorem drawLine_eq_intercalate (event : C2Event) (image : EventImage) :
    drawLine event image = ['\''].intercalate (drawParts event image) :=
  call_eq_intercalate _ _ _ _ _ _ _ _

/-- **The line of an image is read as it was made**: split at its quotes it is the parts of
one call, and it begins no tag. -/
theorem splitOn_drawLine {event : C2Event} {image : EventImage}
    (hdata : ∀ c ∈ image.dataB64.toList, ScriptChar c)
    (hformat : ∀ c ∈ image.pixelFormat.toList, ScriptChar c) :
    (drawLine event image).splitOn '\'' = drawParts event image ∧
      ∀ c ∈ drawLine event image, PlainChar c := by
  have hliteral : ∀ text ∈ ["drawImage(", "img_", ", ", ");"], ∀ c ∈ text.toList, ScriptChar c := by
    simp [ScriptChar, PlainChar]
  have hnumber : ∀ value, ∀ c ∈ decimalChars value, ScriptChar c := fun _ _ => scriptChar_decimalChars
  have hparts : ∀ part ∈ drawParts event image, ∀ c ∈ part, ScriptChar c := by
    simp only [drawParts, List.forall_mem_cons, List.forall_mem_append]
    have hcomma := hliteral ", " (by decide)
    exact ⟨hliteral _ (by decide), ⟨hliteral _ (by decide), hnumber _⟩, hcomma, hdata,
      ⟨⟨⟨⟨hcomma, hnumber _⟩, hcomma⟩, hnumber _⟩, hcomma⟩, hformat, hliteral _ (by decide),
      fun _ h => absurd h List.not_mem_nil⟩
  rw [drawLine_eq_intercalate]
  refine ⟨List.splitOn_intercalate _ (fun part hpart hquote => ?_) (List.cons_ne_nil _ _),
    plainChar_intercalate hparts⟩
  exact (hparts part hpart _ hquote).2 rfl

end KovaWfb
