import SqlTree.Proofs.Parse.Anchoring
import SqlTree.Proofs.Token.Tiling

/-!
# What error reports point at

The report on a refused text names the grammar and the text, and its span is that of a token of the
text, the end of the text included.  So the span cuts the text between characters, and what the
message quotes as found stands in the text at that span.
-/

namespace SqlTree

open Parse

/-! ## Tokens in the text -/

/-- The piece of the text stands behind the bytes in front of it, and the token covers it. -/
structure Token.Covers (token : Token) (before piece : List Char) : Prop where
  span_eq : token.span = ⟨byteLength before, byteLength (before ++ piece)⟩
  text_eq : token.text = String.ofList piece
  noBlank : ' ' ∉ piece

/-- Every token of a text covers a piece of it; the end of the text covers nothing. -/
theorem TokenStream.exists_covers (text : String) :
    ∀ token ∈ (ofText text).toList, ∃ before piece after,
      text.toList = before ++ piece ++ after ∧ token.Covers before piece := by
  intro token member
  have atStart : Lexer.Splits [] text.toList := .inl (by simp)
  obtain ⟨tokens, streamEq, tiles⟩ := @Lexer.tiles_stream [] text.toList false atStart
  have tokensEq : (ofText text).toList = tokens ++ [Token.endAt (byteLength text.toList)] :=
    congrArg toList streamEq
  rw [tokensEq, List.mem_append, List.mem_singleton] at member
  rcases member with inside | rfl
  · obtain ⟨before, piece, after, textEq, spanEq, reads⟩ := tiles.exists_piece token inside
    refine ⟨before, piece, after, textEq, spanEq, ?_, fun blank => ?_⟩
    · simpa using reads.text_eq
    · exact absurd (reads.visible ' ' blank) (by decide)
  · exact ⟨text.toList, [], [], by simp, by simp [Token.endAt], rfl, by simp⟩

/-! ## Messages -/

/-- The character on both sides of a text that a message quotes. -/
def quoteMark : Char :=
  Char.ofNat 96

/-- A text without blanks is the only one behind a blank and a quotation mark if there is no such
mark in front of these. -/
theorem eq_of_blank_quoteMark {first second quoted found : List Char} (noMark : quoteMark ∉ first)
    (noBlank : ' ' ∉ quoted)
    (same : first ++ ' ' :: quoteMark :: quoted = second ++ ' ' :: quoteMark :: found) :
    quoted = found := by
  have noBlankBehind : ' ' ∉ quoteMark :: quoted := by
    rw [List.mem_cons, not_or]
    exact ⟨by decide, noBlank⟩
  rcases exists_eq_append_cons same with ⟨tail, rfl⟩ | ⟨head, rfl, headEq⟩
  · -- The second place would lie in front of the first one, and so would its quotation mark.
    simp only [List.append_assoc, List.cons_append, List.append_cancel_left_eq,
      List.cons.injEq, true_and] at same
    cases tail with
    | nil => exact absurd (List.cons.inj same).1 (by decide)
    | cons mark tail =>
      obtain ⟨rfl, -⟩ := List.cons.inj same
      exact absurd (by simp) noMark
  · cases head with
    | nil =>
      simp only [List.nil_append, List.cons.injEq, true_and] at headEq
      exact headEq
    | cons blank head =>
      -- The second place would lie behind the first one, and so would its blank.
      obtain ⟨-, behindEq⟩ := List.cons.inj headEq
      rw [behindEq] at noBlankBehind
      exact absurd (by simp) noBlankBehind

theorem TokenKind.quoteMark_notMem_description (kind : TokenKind) :
    quoteMark ∉ kind.description.toList := by
  cases kind with
  | keyword keyword => cases keyword <;> decide
  | _ => decide

theorem toList_quoted (text : String) :
    ("`" ++ text ++ "`").toList = quoteMark :: (text.toList ++ [quoteMark]) := by
  have markEq : "`".toList = [quoteMark] := by decide
  rw [String.toList_append, String.toList_append, markEq, List.append_assoc,
    List.singleton_append]

namespace ParseCause

variable {cause : ParseCause} {token : Token} {before piece : List Char}

theorem message_unexpected (expected : TokenKind) (found : Token) :
    (unexpected expected found).message =
      "expected " ++ expected.description ++ ", found " ++ found.mention :=
  rfl

theorem message_unsupportedOperator (found : String) :
    (unsupportedOperator found).message =
      "unsupported operator `" ++ found ++ "`, only `=` is allowed" :=
  rfl

theorem toList_message_unexpected (expected : TokenKind) (found : Token) :
    (unexpected expected found).message.toList =
      ("expected ".toList ++ expected.description.toList ++ ", found".toList) ++
        ' ' :: found.mention.toList := by
  have blankEq : ", found ".toList = ", found".toList ++ [' '] := by decide
  rw [message_unexpected, String.toList_append, String.toList_append, String.toList_append,
    blankEq]
  simp only [List.append_assoc, List.singleton_append]

theorem getLast?_message_unsupportedOperator (found : String) :
    (unsupportedOperator found).message.toList.getLast? = some 'd' := by
  have lastEq : "`, only `=` is allowed".toList.getLast? = some 'd' := by decide
  rw [message_unsupportedOperator, String.toList_append, List.getLast?_append, lastEq]
  rfl

/-- What the message says to be found is what the token covers. -/
theorem Finds.eq_of_found (finds : cause.Finds token) (covers : token.Covers before piece)
    {front found : String} (messageEq : cause.message = front ++ "found `" ++ found ++ "`") :
    found = String.ofList piece := by
  have listEq : cause.message.toList =
      (front.toList ++ "found".toList) ++ ' ' :: quoteMark :: (found.toList ++ [quoteMark]) := by
    have openingEq : "found `".toList = "found".toList ++ [' '] ++ [quoteMark] := by decide
    have closingEq : "`".toList = [quoteMark] := by decide
    rw [messageEq, String.toList_append, String.toList_append, String.toList_append, openingEq,
      closingEq]
    simp only [List.append_assoc]
    rfl
  have marked : quoteMark ∈ cause.message.toList := by
    rw [listEq]
    exact List.mem_append_right _ (List.mem_cons_of_mem _ List.mem_cons_self)
  cases cause with
  | unexpected expected other =>
    obtain rfl : other = token := finds
    rw [toList_message_unexpected] at listEq marked
    have noMark : quoteMark ∉
        "expected ".toList ++ expected.description.toList ++ ", found".toList := by
      simp only [List.mem_append, not_or]
      exact ⟨⟨by decide, expected.quoteMark_notMem_description⟩, by decide⟩
    unfold Token.mention at listEq marked
    split at listEq
    · next nameless =>
      rw [if_pos nameless] at marked
      have inDescription : quoteMark ∈ ' ' :: other.kind.description.toList :=
        (List.mem_append.mp marked).resolve_left noMark
      have noBlank : quoteMark ≠ ' ' := by decide
      exact absurd ((List.mem_cons.mp inDescription).resolve_left noBlank)
        other.kind.quoteMark_notMem_description
    · rw [toList_quoted] at listEq
      have noBlank : ' ' ∉ other.text.toList ++ [quoteMark] := by
        rw [covers.text_eq, String.toList_ofList, List.mem_append, not_or]
        exact ⟨covers.noBlank, by decide⟩
      have quotedEq := List.append_cancel_right (eq_of_blank_quoteMark noMark noBlank listEq)
      rw [← String.toList_inj.mp quotedEq, covers.text_eq]
  | unsupportedOperator other =>
    have lastEq := congrArg List.getLast? listEq
    rw [getLast?_message_unsupportedOperator] at lastEq
    rw [← List.cons_append, ← List.cons_append, ← List.append_assoc, List.getLast?_concat] at lastEq
    exact absurd (Option.some.inj lastEq) (by decide)
  | stated other => exact finds.elim
  | _ => exact absurd marked (by decide)

/-- What the message says to be an operator is what the token covers. -/
theorem Finds.eq_of_operator (finds : cause.Finds token) (covers : token.Covers before piece)
    {found : String}
    (messageEq : cause.message = "unsupported operator `" ++ found ++ "`, only `=` is allowed") :
    found = String.ofList piece := by
  have marked : quoteMark ∈ cause.message.toList := by
    rw [messageEq, String.toList_append, String.toList_append]
    exact List.mem_append_left _ (List.mem_append_left _ (by decide))
  cases cause with
  | unexpected expected other =>
    have expectedFirst : "expected ".toList.head? = some 'e' := by decide
    have unsupportedFirst : "unsupported operator `".toList.head? = some 'u' := by decide
    have firstEq := congrArg (·.toList.head?) messageEq
    simp only [message_unexpected, String.toList_append, List.append_assoc, List.head?_append,
      expectedFirst, unsupportedFirst, Option.some_or] at firstEq
    exact absurd (Option.some.inj firstEq) (by decide)
  | unsupportedOperator other =>
    have listEq := congrArg String.toList messageEq
    simp only [message_unsupportedOperator, String.toList_append, List.append_cancel_left_eq,
      List.append_cancel_right_eq, String.toList_inj] at listEq
    have textEq : other = token.text := finds
    rw [← listEq, textEq, covers.text_eq]
  | stated other => exact finds.elim
  | _ => exact absurd marked (by decide)

end ParseCause

/-! ## Reports -/

/-- The report is one of the grammar on the text, and points at a token of the text, the end of the
text included.  The span of the token cuts the text between characters, and what the message quotes
as found or as an operator stands there. -/
structure ParseError.IsAnchored (error : ParseError) (grammar : Grammar) (text : String) :
    Prop where
  grammar_eq : error.grammar = grammar
  query_eq : error.query = text
  points : ∃ token ∈ (Lexer.ofText text false).stream.toList, ∃ before piece after,
    error.span = some token.span ∧ text.toList = before ++ piece ++ after ∧
    token.span = ⟨byteLength before, byteLength (before ++ piece)⟩ ∧
    (∀ front found, error.message = front ++ "found `" ++ found ++ "`" →
      found = String.ofList piece) ∧
    ∀ found, error.message = "unsupported operator `" ++ found ++ "`, only `=` is allowed" →
      found = String.ofList piece

theorem Parse.Failure.AnchoredIn.report {failure : Failure} {text : String}
    (anchored : failure.AnchoredIn (.ofText text)) (grammar : Grammar) :
    (failure.report grammar text).IsAnchored grammar text := by
  obtain ⟨token, member, spanEq, finds⟩ := anchored
  obtain ⟨before, piece, after, textEq, covers⟩ := TokenStream.exists_covers text token member
  exact ⟨rfl, rfl, token, member, before, piece, after, congrArg some spanEq, textEq,
    covers.span_eq, fun _ _ => finds.eq_of_found covers, fun _ => finds.eq_of_operator covers⟩

/-- Every text that is refused is reported with the grammar that refused it, with the text itself
and with the span of one of its tokens, at which the text says what the message quotes. -/
theorem Parse.reports_are_anchored (text : String) :
    (∀ error, whereCondition text = .error error → error.IsAnchored .condition text) ∧
    (∀ error, havingCondition text = .error error → error.IsAnchored .condition text) ∧
    (∀ error, join text = .error error → error.IsAnchored .joinCondition text) ∧
    (∀ error, select text = .error error → error.IsAnchored .select text) ∧
    ∀ request error, analysis text request = .error error → error.IsAnchored .query text := by
  have ofFilter {keyword : Keyword} {error : ParseError}
      (refused : filter keyword text = .error error) : error.IsAnchored .condition text := by
    obtain ⟨failure, failed, rfl⟩ := exists_of_report_eq_error refused
    exact (anchoredIn_of_readFilter failed).report _
  refine ⟨fun _ => ofFilter, fun _ => ofFilter, ?_, ?_, ?_⟩
  · intro error refused
    obtain ⟨failure, failed, rfl⟩ := exists_of_report_eq_error refused
    exact (anchoredIn_of_readJoin failed).report _
  · intro error refused
    obtain ⟨failure, failed, rfl⟩ := exists_of_report_eq_error refused
    exact (anchoredIn_of_readSelect failed).report _
  · intro request error refused
    obtain ⟨failure, failed, rfl⟩ := exists_of_report_eq_error refused
    exact (anchoredIn_of_readAnalysis failed).report _

/-- The places are bytes and not characters. -/
theorem Parse.report_on_asterisk_is_anchored :
    ∃ error, Parse.join "sizes ON größe = *" = .error error ∧
      error.message = "expected literal, found `*`" ∧ error.span = some ⟨19, 20⟩ ∧
      error.IsAnchored .joinCondition "sizes ON größe = *" := by
  have refused : Parse.join "sizes ON größe = *" =
      .error ⟨.joinCondition, .unexpected .literal ⟨.asterisk, "*", ⟨19, 20⟩⟩, some ⟨19, 20⟩,
        "sizes ON größe = *"⟩ := by
    decide +kernel
  obtain ⟨-, -, anchored, -, -⟩ := Parse.reports_are_anchored "sizes ON größe = *"
  exact ⟨_, refused, by decide, rfl, anchored _ refused⟩

end SqlTree
