import SqlTree.Proofs.Token.Concatenation

/-!
# Line feeds that end statements

Where line feeds end statements, the tokens tile the text as well.  When the semicolons that line
feeds stand for are left out, the line feeds join the gaps around them, and what is left tiles the
text as it is cut up where line feeds are layout.  So the same tokens are left, and as many have
been left out as there are line feeds.
-/

namespace SqlTree

open Lexer (isLayout)

/-! ## What a span covers -/

/-- The characters behind the given number of bytes that begin inside the span. -/
def Span.charactersFrom (span : Span) (offset : Nat) : List Char → List Char
  | [] => []
  | character :: rest =>
    if span.start ≤ offset ∧ offset < span.stop then
      character :: span.charactersFrom (offset + character.utf8Size) rest
    else span.charactersFrom (offset + character.utf8Size) rest

/-- The token is a semicolon and covers a line feed of the text. -/
def Token.isLineFeed (text : List Char) (token : Token) : Bool :=
  token.kind == .semicolon && (token.span.charactersFrom 0 text).contains '\n'

namespace Span

theorem charactersFrom_append (span : Span) (offset : Nat) (first second : List Char) :
    span.charactersFrom offset (first ++ second) =
      span.charactersFrom offset first ++
        span.charactersFrom (offset + byteLength first) second := by
  induction first generalizing offset with
  | nil => rfl
  | cons character rest ih =>
    simp only [List.cons_append, charactersFrom, ih, byteLength_cons, Nat.add_assoc]
    split <;> rfl

theorem charactersFrom_of_le (span : Span) (offset : Nat) {characters : List Char}
    (before : offset + byteLength characters ≤ span.start) :
    span.charactersFrom offset characters = [] := by
  induction characters generalizing offset with
  | nil => rfl
  | cons character rest ih =>
    rw [byteLength_cons] at before
    have positive := character.utf8Size_pos
    rw [charactersFrom, if_neg (by omega)]
    exact ih _ (by omega)

theorem charactersFrom_of_stop_le (span : Span) (offset : Nat) (characters : List Char)
    (behind : span.stop ≤ offset) : span.charactersFrom offset characters = [] := by
  induction characters generalizing offset with
  | nil => rfl
  | cons character rest ih =>
    rw [charactersFrom, if_neg (by omega)]
    exact ih _ (by omega)

theorem charactersFrom_of_within (span : Span) (offset : Nat) {characters : List Char}
    (starts : span.start ≤ offset) (stops : offset + byteLength characters ≤ span.stop) :
    span.charactersFrom offset characters = characters := by
  induction characters generalizing offset with
  | nil => rfl
  | cons character rest ih =>
    rw [byteLength_cons] at stops
    have positive := character.utf8Size_pos
    rw [charactersFrom, if_pos (by omega), ih _ (by omega) (by omega)]

/-- The span of a piece of a text covers the piece. -/
theorem charactersFrom_piece (before piece after : List Char) :
    charactersFrom ⟨byteLength before, byteLength (before ++ piece)⟩ 0 (before ++ piece ++ after) =
      piece := by
  rw [charactersFrom_append, charactersFrom_append, charactersFrom_of_le _ _ (by simp),
    charactersFrom_of_within _ _ (by simp) (by simp), charactersFrom_of_stop_le _ _ _ (by simp),
    List.nil_append, List.append_nil]

end Span

/-! ## Tiles -/

theorem isLayout_false_iff (character : Char) :
    isLayout false character = true ↔ isLayout true character = true ∨ character = '\n' := by
  simp only [isLayout_iff, true_and, Bool.true_eq_false, false_and, or_false, or_assoc]

/-- Layout in front of tiles belongs to their first gap. -/
theorem Tiles.behind_layout {lineFeeds : Bool} {before gap rest : List Char} {tokens : List Token}
    (layout : ∀ character ∈ gap, isLayout lineFeeds character = true)
    (tiles : Tiles lineFeeds (before ++ gap) rest tokens) :
    Tiles lineFeeds before (gap ++ rest) tokens := by
  cases tiles with
  | gap layoutBehind => exact .gap (List.forall_mem_append.mpr ⟨layout, layoutBehind⟩)
  | token layoutBehind spanEq reads others =>
    rw [List.append_assoc before] at spanEq reads others
    rw [← List.append_assoc gap]
    exact .token (List.forall_mem_append.mpr ⟨layout, layoutBehind⟩) spanEq reads others

/-- The tokens that tile a text are its tokens. -/
theorem Tiles.stream_eq {lineFeeds : Bool} {characters : List Char} {tokens : List Token}
    (tiles : Tiles lineFeeds [] characters tokens) :
    Lexer.stream ⟨characters, 0, lineFeeds⟩ = ⟨tokens, byteLength characters⟩ := by
  have cuts := tiles.cuts Lexer.endsWord_nil
  simp only [List.append_nil, List.nil_append, byteLength_nil] at cuts
  rw [cuts, Lexer.stream_nil]
  simp [TokenStream.prepend]

/-- What a token reads where line feeds end statements it reads where they are layout, unless it is
a line feed. -/
theorem Token.Reads.without_lineFeeds {token : Token} {before piece after : List Char}
    (reads : token.Reads true before after piece) :
    (piece = ['\n'] ∧ token.kind = .semicolon) ∨
      ('\n' ∉ piece ∧ token.Reads false before after piece) := by
  cases reads with
  | word whole =>
    have noLineFeed : '\n' ∉ piece := fun member =>
      absurd (whole.inWord '\n' member) (by decide)
    exact .inr ⟨noLineFeed, .word whole⟩
  | @single character alone =>
    by_cases lineFeed : character = '\n'
    · subst lineFeed
      exact .inl ⟨rfl, alone.kind_eq⟩
    · have visible : isLayout false character = false := by
        rw [← Bool.not_eq_true, isLayout_false_iff, not_or]
        exact ⟨by simp [alone.visible], lineFeed⟩
      refine .inr ⟨by simpa using Ne.symm lineFeed, .single ?_⟩
      exact ⟨alone.noWord, visible, alone.text_eq, alone.kind_eq⟩

theorem lineFeed_notMem_of_layout {gap : List Char}
    (layout : ∀ character ∈ gap, isLayout true character = true) : '\n' ∉ gap := fun member =>
  absurd (layout '\n' member) (by decide)

/-- Without its line feeds, tiles are those of the text in which line feeds are layout; there are as
many as characters that are line feeds.  The induction takes a gap and one token at a time. -/
theorem Tiles.without_lineFeeds {before rest : List Char} {tokens : List Token}
    (tiles : Tiles true before rest tokens) :
    Tiles false before rest (tokens.filter fun token => !token.isLineFeed (before ++ rest)) ∧
      tokens.countP (Token.isLineFeed (before ++ rest)) = rest.count '\n' := by
  induction tiles with
  | @gap before gap layout =>
    refine ⟨.gap fun character member => ?_, ?_⟩
    · exact (isLayout_false_iff character).mpr (.inl (layout character member))
    · rw [List.count_eq_zero_of_not_mem (lineFeed_notMem_of_layout layout)]
      rfl
  | @token before gap piece after token others layout spanEq reads tiled ih =>
    have layoutBefore : ∀ character ∈ gap, isLayout false character = true := fun character member =>
      (isLayout_false_iff character).mpr (.inl (layout character member))
    have wholeEq : before ++ (gap ++ (piece ++ after)) = before ++ gap ++ piece ++ after := by simp
    have covered : token.span.charactersFrom 0 (before ++ gap ++ piece ++ after) = piece := by
      rw [spanEq]
      exact Span.charactersFrom_piece (before ++ gap) piece after
    obtain ⟨tilesBehind, countBehind⟩ := ih
    rw [wholeEq, List.filter_cons, List.countP_cons, List.count_append, List.count_append,
      List.count_eq_zero_of_not_mem (lineFeed_notMem_of_layout layout), countBehind]
    rcases reads.without_lineFeeds with ⟨rfl, semicolon⟩ | ⟨noLineFeed, readsToo⟩
    · -- The line feed is left out, and joins the gap in front of it to the one behind it.
      have isLineFeed : token.isLineFeed (before ++ gap ++ ['\n'] ++ after) = true := by
        rw [Token.isLineFeed, covered, semicolon]
        rfl
      rw [isLineFeed]
      refine ⟨?_, by simp [Nat.add_comm]⟩
      have lineFeedIsLayout : ∀ character ∈ ['\n'], isLayout false character = true := by
        intro character member
        rw [List.mem_singleton.mp member]
        decide
      have joined := Tiles.behind_layout lineFeedIsLayout tilesBehind
      exact Tiles.behind_layout layoutBefore joined
    · have noLineFeedToken : token.isLineFeed (before ++ gap ++ piece ++ after) = false := by
        rw [Token.isLineFeed, covered]
        simp [noLineFeed]
      rw [noLineFeedToken, List.count_eq_zero_of_not_mem noLineFeed]
      exact ⟨.token layoutBefore spanEq readsToo tilesBehind, by simp⟩

/-- For every text, the tokens that are found where line feeds are layout are those found where line
feeds end statements, without the semicolons that cover a line feed; and these are as many as there
are line feeds. -/
theorem Lexer.lineFeeds_only_add_tokens (text : String) :
    (ofText text true).stream.toList.filter (fun token => !token.isLineFeed text.toList) =
      (ofText text false).stream.toList ∧
    (ofText text true).stream.toList.countP (Token.isLineFeed text.toList) =
      text.toList.count '\n' := by
  have atStart : Splits [] text.toList := .inl (by simp)
  obtain ⟨tokens, streamEq, tiles⟩ := @tiles_stream [] text.toList true atStart
  obtain ⟨tilesToo, count⟩ := tiles.without_lineFeeds
  rw [List.nil_append] at streamEq tilesToo count
  have endKept : (Token.endAt (byteLength text.toList)).isLineFeed text.toList = false := rfl
  have withLineFeeds : (ofText text true).stream.toList =
      tokens ++ [Token.endAt (byteLength text.toList)] := congrArg TokenStream.toList streamEq
  have without : (ofText text false).stream.toList =
      tokens.filter (fun token => !token.isLineFeed text.toList) ++
        [Token.endAt (byteLength text.toList)] :=
    congrArg TokenStream.toList tilesToo.stream_eq
  rw [withLineFeeds, without, List.filter_append, List.countP_append, count]
  simp [endKept]

end SqlTree
