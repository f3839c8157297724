import Mathlib.Data.List.TakeWhile
import Mathlib.Data.String.Basic
import SqlTree.Proofs.Token.Cutting

/-!
# Tokens tile the text

The tokens of a text cover it without overlaps, and only layout is left between them.  A token is
either a word, which begins and ends where no word character is next to it, or a single character.
So a text can be put together again from what its tokens cover and the gaps between them.
-/

namespace SqlTree

open Lexer (isLayout EndsWord)

/-- The bytes of a text are those of its characters. -/
theorem byteLength_toList (text : String) : byteLength text.toList = text.utf8ByteSize := by
  have sizeOfList (characters : List Char) :
      byteLength characters = (String.ofList characters).utf8ByteSize := by
    rw [String.utf8ByteSize_ofList]
    induction characters with
    | nil => rfl
    | cons character rest ih => rw [byteLength_cons, ih, String.utf8Len, Nat.add_comm]
  rw [sizeOfList, String.ofList_toList]

theorem byteLength_pos {characters : List Char} (nonempty : characters ≠ []) :
    0 < byteLength characters := by
  obtain ⟨character, rest, rfl⟩ := List.exists_cons_of_ne_nil nonempty
  have positive := character.utf8Size_pos
  rw [byteLength_cons]
  omega

theorem isLayout_iff (lineFeeds : Bool) (character : Char) :
    isLayout lineFeeds character = true ↔
      character = ' ' ∨ character = '\t' ∨ character = '\r' ∨
        lineFeeds = false ∧ character = '\n' := by
  simp [isLayout, or_assoc, and_comm]

theorem isWordCharacter_of_isLayout {lineFeeds : Bool} {character : Char}
    (layout : isLayout lineFeeds character = true) : isWordCharacter character = false := by
  cases inWord : isWordCharacter character with
  | false => rfl
  | true =>
    rw [Lexer.isLayout_of_isWordCharacter inWord] at layout
    cases layout

/-! ## What a token says -/

/-- The token is the longest word at its place, and it is a keyword if the word spells one. -/
structure Token.IsWholeWord (token : Token) (before piece after : List Char) : Prop where
  nonempty : piece ≠ []
  inWord : ∀ character ∈ piece, isWordCharacter character = true
  begins : ∀ character ∈ before.getLast?, isWordCharacter character = false
  ends : EndsWord after
  text_eq : token.text = String.ofList piece
  kind_eq : token.kind = wordKind (String.ofList piece)

/-- The token is a character that is neither layout nor part of a word. -/
structure Token.IsSingle (lineFeeds : Bool) (token : Token) (character : Char) : Prop where
  noWord : isWordCharacter character = false
  visible : isLayout lineFeeds character = false
  text_eq : token.text = punctuationText character
  kind_eq : token.kind = punctuationKind character

/-- The token says the piece that stands between the other characters. -/
inductive Token.Reads (lineFeeds : Bool) (token : Token) (before after : List Char) :
    (piece : List Char) → Prop where
  | word {piece : List Char} (whole : token.IsWholeWord before piece after) :
    Reads lineFeeds token before after piece
  | single {character : Char} (alone : token.IsSingle lineFeeds character) :
    Reads lineFeeds token before after [character]

namespace Token.Reads

variable {lineFeeds : Bool} {token : Token} {before piece after : List Char}

theorem nonempty (reads : token.Reads lineFeeds before after piece) : piece ≠ [] := by
  cases reads with
  | word whole => exact whole.nonempty
  | single alone => simp

theorem visible (reads : token.Reads lineFeeds before after piece) :
    ∀ character ∈ piece, isLayout lineFeeds character = false := by
  intro character member
  cases reads with
  | word whole => exact Lexer.isLayout_of_isWordCharacter (whole.inWord character member) lineFeeds
  | single alone =>
    obtain rfl := List.mem_singleton.mp member
    exact alone.visible

theorem kind_ne_endOfInput (reads : token.Reads lineFeeds before after piece) :
    token.kind ≠ .endOfInput := by
  cases reads with
  | word whole =>
    rw [whole.kind_eq]
    exact Lexer.wordKind_ne_endOfInput _
  | single alone =>
    rw [alone.kind_eq]
    exact Lexer.punctuationKind_ne_endOfInput _

/-- The text of a token is what it covers, except for a line feed, which says a semicolon. -/
theorem text_eq (reads : token.Reads lineFeeds before after piece) :
    token.text = if lineFeeds = true ∧ piece = ['\n'] then ";" else String.ofList piece := by
  cases reads with
  | word whole =>
    have noLineFeed : piece ≠ ['\n'] := by
      rintro rfl
      have inWord := whole.inWord '\n' List.mem_cons_self
      exact absurd inWord (by decide)
    rw [if_neg (fun lineFeed => noLineFeed lineFeed.2), whole.text_eq]
  | @single character alone =>
    rw [alone.text_eq, punctuationText, String.singleton_eq_ofList]
    by_cases lineFeed : character = '\n'
    · subst lineFeed
      have endsStatements : lineFeeds = true := by simpa [isLayout] using alone.visible
      simp [endsStatements]
    · rw [if_neg (by simpa using lineFeed), if_neg (by simp [lineFeed])]

end Token.Reads

theorem wordKind_eq_keyword_iff (word : String) (keyword : Keyword) :
    wordKind word = .keyword keyword ↔ Keyword.lookup word = some keyword := by
  unfold wordKind
  split <;> simp_all

theorem punctuationKind_eq_illegal_iff (character : Char) :
    punctuationKind character = .illegal ↔
      character ∉ ['\n', '*', '=', ';', ',', ':', '(', ')'] := by
  unfold punctuationKind
  split <;> simp_all

/-- A single character is illegal unless it has a meaning. -/
theorem Token.IsSingle.kind_eq_illegal_iff {lineFeeds : Bool} {token : Token} {character : Char}
    (alone : token.IsSingle lineFeeds character) :
    token.kind = .illegal ↔
      isLayout lineFeeds character = false ∧ isWordCharacter character = false ∧
      character ∉ ['*', '=', ';', ',', ':', '(', ')'] ∧
      ¬ (lineFeeds = true ∧ character = '\n') := by
  have lineFeed (isLineFeed : character = '\n') : lineFeeds = true := by
    have visible := alone.visible
    subst isLineFeed
    simpa [isLayout] using visible
  rw [alone.kind_eq, punctuationKind_eq_illegal_iff, List.mem_cons, not_or]
  constructor
  · rintro ⟨noLineFeed, meaningless⟩
    exact ⟨alone.visible, alone.noWord, meaningless, fun both => noLineFeed both.2⟩
  · rintro ⟨-, -, meaningless, noLineFeed⟩
    exact ⟨fun isLineFeed => noLineFeed ⟨lineFeed isLineFeed, isLineFeed⟩, meaningless⟩

/-! ## Tiles -/

/-- The tokens and the layout between them make up the rest of a text. -/
inductive Tiles (lineFeeds : Bool) : (before rest : List Char) → List Token → Prop where
  | gap {before gap : List Char}
      (layout : ∀ character ∈ gap, isLayout lineFeeds character = true) :
    Tiles lineFeeds before gap []
  | token {before gap piece after : List Char} {token : Token} {tokens : List Token}
      (layout : ∀ character ∈ gap, isLayout lineFeeds character = true)
      (span_eq : token.span = ⟨byteLength (before ++ gap), byteLength (before ++ gap ++ piece)⟩)
      (reads : token.Reads lineFeeds (before ++ gap) after piece)
      (others : Tiles lineFeeds (before ++ gap ++ piece) after tokens) :
    Tiles lineFeeds before (gap ++ (piece ++ after)) (token :: tokens)

namespace Lexer

/-- No word goes on across the place. -/
def Splits (before rest : List Char) : Prop :=
  (∀ character ∈ before.getLast?, isWordCharacter character = false) ∨ EndsWord rest

theorem getLast?_append_layout {before gap : List Char} {lineFeeds : Bool}
    (layout : ∀ character ∈ gap, isLayout lineFeeds character = true) {rest : List Char}
    (splits : Splits before (gap ++ rest)) (goesOn : ¬ EndsWord rest) :
    ∀ character ∈ (before ++ gap).getLast?, isWordCharacter character = false := by
  intro character last
  rw [List.getLast?_append] at last
  cases lastOfGap : gap.getLast? with
  | some blank =>
    have blankMem : blank ∈ gap := List.mem_of_getLast? lastOfGap
    obtain rfl : blank = character := by simpa [lastOfGap] using last
    exact isWordCharacter_of_isLayout (layout blank blankMem)
  | none =>
    obtain rfl := List.getLast?_eq_none_iff.mp lastOfGap
    rcases splits with noWord | ends
    · exact noWord character (by simpa using last)
    · exact absurd ends goesOn

/-- Layout leaves no token. -/
theorem cuts_layout {gap : List Char} {lineFeeds : Bool}
    (layout : ∀ character ∈ gap, isLayout lineFeeds character = true) (rest : List Char)
    (offset : Nat) :
    Cuts ⟨gap ++ rest, offset, lineFeeds⟩ [] ⟨rest, offset + byteLength gap, lineFeeds⟩ := by
  have sameLayout : skipLayout ⟨gap ++ rest, offset, lineFeeds⟩ =
      skipLayout ⟨rest, offset + byteLength gap, lineFeeds⟩ := by
    simp only [skipLayout, skip, List.takeWhile_append_of_pos layout,
      List.dropWhile_append_of_pos layout, byteLength_append, Nat.add_assoc]
  exact stream_congr (congrArg scan sameLayout)

/-- No word goes on across layout. -/
theorem endsWord_append_of_layout {gap : List Char} {lineFeeds : Bool} (nonempty : gap ≠ [])
    (layout : ∀ character ∈ gap, isLayout lineFeeds character = true) (rest : List Char) :
    EndsWord (gap ++ rest) := by
  obtain ⟨blank, others, rfl⟩ := List.exists_cons_of_ne_nil nonempty
  have blankIsLayout := layout blank List.mem_cons_self
  exact endsWord_cons (isWordCharacter_of_isLayout blankIsLayout) (others ++ rest)

theorem endsWord_dropWhile (characters : List Char) :
    EndsWord (characters.dropWhile isWordCharacter) := by
  intro character first
  have noWord := List.head?_dropWhile_not isWordCharacter characters
  rw [Option.mem_def.mp first] at noWord
  simpa using noWord

/-- A token takes a piece off the text behind other text, and no word goes on behind it. -/
structure Takes (lineFeeds : Bool) (token : Token) (before piece after : List Char) : Prop where
  span_eq : token.span = ⟨byteLength before, byteLength (before ++ piece)⟩
  reads : token.Reads lineFeeds before after piece
  cuts : Cuts ⟨piece ++ after, byteLength before, lineFeeds⟩ [token]
    ⟨after, byteLength (before ++ piece), lineFeeds⟩
  splits : Splits (before ++ piece) after

theorem takes_single {before : List Char} {character : Char} {lineFeeds : Bool}
    (noWord : isWordCharacter character = false)
    (visible : isLayout lineFeeds character = false) (after : List Char) :
    Takes lineFeeds
      ⟨punctuationKind character, punctuationText character,
        ⟨byteLength before, byteLength (before ++ [character])⟩⟩
      before [character] after where
  span_eq := rfl
  reads := .single ⟨noWord, visible, rfl, rfl⟩
  cuts := by
    have cutsMark := cuts_mark noWord visible after (byteLength before)
    rw [byteLength_append]
    exact cutsMark
  splits := by
    left
    intro last isLast
    obtain rfl : character = last := by simpa using isLast
    exact noWord

theorem takes_word {before piece after : List Char} (nonempty : piece ≠ [])
    (inWord : ∀ character ∈ piece, isWordCharacter character = true)
    (begins : ∀ character ∈ before.getLast?, isWordCharacter character = false)
    (ends : EndsWord after) (lineFeeds : Bool) :
    Takes lineFeeds
      ⟨wordKind (String.ofList piece), String.ofList piece,
        ⟨byteLength before, byteLength (before ++ piece)⟩⟩
      before piece after where
  span_eq := rfl
  reads := .word ⟨nonempty, inWord, begins, ends, rfl, rfl⟩
  cuts := by
    have cutsWord := cuts_word nonempty inWord ends (byteLength before) lineFeeds
    rw [byteLength_append]
    exact cutsWord
  splits := .inr ends

/-- Where a visible character stands, a token takes it, alone or as the first of a word. -/
theorem exists_takes {before : List Char} {first : Char} {lineFeeds : Bool}
    (visible : isLayout lineFeeds first = false) (following : List Char)
    (splits : Splits before (first :: following)) :
    ∃ token piece after, first :: following = piece ++ after ∧
      Takes lineFeeds token before piece after := by
  cases inWord : isWordCharacter first with
  | false => exact ⟨_, [first], following, rfl, takes_single inWord visible following⟩
  | true =>
    have begins : ∀ character ∈ before.getLast?, isWordCharacter character = false := by
      rcases splits with noWord | ends
      · exact noWord
      · rw [ends first rfl] at inWord
        cases inWord
    have whole := List.takeWhile_append_dropWhile (p := isWordCharacter) (l := first :: following)
    have nonempty : (first :: following).takeWhile isWordCharacter ≠ [] := by
      simp [inWord]
    have allInWord : ∀ character ∈ (first :: following).takeWhile isWordCharacter,
        isWordCharacter character = true :=
      fun _ => List.mem_takeWhile_imp
    have takes := takes_word nonempty allInWord begins
      (endsWord_dropWhile (first :: following)) lineFeeds
    exact ⟨_, _, _, whole.symm, takes⟩

/-- Every text begins with a gap, behind which a visible character stands or nothing. -/
theorem exists_gap (lineFeeds : Bool) (rest : List Char) :
    ∃ gap behind, rest = gap ++ behind ∧
      (∀ character ∈ gap, isLayout lineFeeds character = true) ∧
      ∀ character ∈ behind.head?, isLayout lineFeeds character = false := by
  refine ⟨rest.takeWhile (isLayout lineFeeds), rest.dropWhile (isLayout lineFeeds),
    List.takeWhile_append_dropWhile.symm, fun _ => List.mem_takeWhile_imp, ?_⟩
  intro character first
  have visible := List.head?_dropWhile_not (isLayout lineFeeds) rest
  rw [Option.mem_def.mp first] at visible
  simpa using visible

/-- The tokens of a rest of a text tile it.  The induction takes a gap and one token at a time. -/
theorem tiles_stream {before rest : List Char} {lineFeeds : Bool} (splits : Splits before rest) :
    ∃ tokens, stream ⟨rest, byteLength before, lineFeeds⟩ =
        ⟨tokens, byteLength (before ++ rest)⟩ ∧
      Tiles lineFeeds before rest tokens := by
  induction sizeEq : rest.length using Nat.strong_induction_on generalizing before rest with
  | h size ih =>
    obtain ⟨gap, behind, rfl, layout, firstVisible⟩ := exists_gap lineFeeds rest
    have cutsGap := cuts_layout layout behind (byteLength before)
    rw [← byteLength_append] at cutsGap
    cases behind with
    | nil =>
      rw [List.append_nil] at cutsGap ⊢
      refine ⟨[], ?_, .gap layout⟩
      rw [cutsGap, stream_nil]
      rfl
    | cons first following =>
      have splitsBehind : Splits (before ++ gap) (first :: following) := by
        by_cases ends : EndsWord (first :: following)
        · exact .inr ends
        · exact .inl (getLast?_append_layout layout splits ends)
      obtain ⟨token, piece, after, pieceEq, takes⟩ :=
        exists_takes (firstVisible first rfl) following splitsBehind
      have shorter : after.length < size := by
        have someTaken := List.length_pos_of_ne_nil takes.reads.nonempty
        rw [← sizeEq, pieceEq]
        simp only [List.length_append]
        omega
      obtain ⟨tokens, streamEq, others⟩ := ih after.length shorter takes.splits rfl
      rw [pieceEq] at cutsGap ⊢
      refine ⟨token :: tokens, ?_, .token layout takes.span_eq takes.reads others⟩
      rw [cutsGap.trans takes.cuts, streamEq]
      simp [TokenStream.prepend]

end Lexer

/-! ## What tiles tell -/

/-- The gaps with a piece between each two of them. -/
def weave : (gaps pieces : List (List Char)) → List Char
  | gap :: gaps, piece :: pieces => gap ++ (piece ++ weave gaps pieces)
  | gaps, _ => gaps.flatten

/-- The place of a character in a text of two parts is in the first or in the second. -/
theorem exists_eq_append_cons {first second front behind : List Char} {character : Char}
    (whole : first ++ second = front ++ character :: behind) :
    (∃ tail, first = front ++ character :: tail) ∨
      ∃ head, front = first ++ head ∧ second = head ++ character :: behind := by
  rcases List.append_eq_append_iff.mp whole with
    ⟨head, frontEq, secondEq⟩ | ⟨tail, firstEq, tailEq⟩
  · exact .inr ⟨head, frontEq, secondEq⟩
  · cases tail with
    | nil => exact .inr ⟨[], by simpa using firstEq.symm, tailEq.symm⟩
    | cons other tail =>
      obtain ⟨rfl, -⟩ := List.cons.inj tailEq
      exact .inl ⟨tail, firstEq⟩

namespace Tiles

variable {lineFeeds : Bool} {before rest : List Char} {tokens : List Token}

theorem byteLength_le_start (tiles : Tiles lineFeeds before rest tokens) :
    ∀ token ∈ tokens, byteLength before ≤ token.span.start := by
  induction tiles with
  | gap layout => simp
  | @token before gap piece after first others layout spanEq reads tiled ih =>
    intro token member
    rcases List.mem_cons.mp member with rfl | behind
    · rw [spanEq]
      simp
    · have startBehind := ih token behind
      simp only [byteLength_append] at startBehind
      omega

theorem pairwise_stop_le_start (tiles : Tiles lineFeeds before rest tokens) :
    tokens.Pairwise fun first second => first.span.stop ≤ second.span.start := by
  induction tiles with
  | gap layout => exact .nil
  | @token before gap piece after first others layout spanEq reads tiled ih =>
    refine .cons (fun token member => ?_) ih
    rw [spanEq]
    exact tiled.byteLength_le_start token member

/-- A token covers a piece of the whole text. -/
theorem exists_piece (tiles : Tiles lineFeeds before rest tokens) :
    ∀ token ∈ tokens, ∃ front piece behind, before ++ rest = front ++ piece ++ behind ∧
      token.span = ⟨byteLength front, byteLength (front ++ piece)⟩ ∧
      token.Reads lineFeeds front behind piece := by
  induction tiles with
  | gap layout => simp
  | @token before gap piece after first others layout spanEq reads tiled ih =>
    intro token member
    rcases List.mem_cons.mp member with rfl | behind
    · exact ⟨before ++ gap, piece, after, by simp, spanEq, reads⟩
    · simpa using ih token behind

/-- A character is layout exactly where no token covers it. -/
theorem isLayout_iff_uncovered (tiles : Tiles lineFeeds before rest tokens)
    {front behind : List Char} {character : Char} (restEq : rest = front ++ character :: behind) :
    isLayout lineFeeds character = true ↔
      ∀ token ∈ tokens, ¬ (token.span.start ≤ byteLength (before ++ front) ∧
        byteLength (before ++ front) < token.span.stop) := by
  induction tiles generalizing front with
  | gap layout => simpa using layout character (by simp [restEq])
  | @token before gap piece after first others layout spanEq reads tiled ih =>
    have starts := tiled.byteLength_le_start
    simp only [byteLength_append] at starts
    simp only [List.forall_mem_cons, spanEq, byteLength_append]
    have positive := character.utf8Size_pos
    rcases exists_eq_append_cons restEq with ⟨gapTail, rfl⟩ | ⟨front, rfl, tailEq⟩
    · -- In the gap: all tokens start behind the character.
      have inLayout := layout character (by simp)
      simp only [inLayout, true_iff, byteLength_append, byteLength_cons] at starts ⊢
      refine ⟨by omega, fun token member => ?_⟩
      have startsBehind := starts token member
      omega
    rcases exists_eq_append_cons tailEq with ⟨pieceTail, rfl⟩ | ⟨front, rfl, afterEq⟩
    · -- In the piece: the first token covers the character.
      have noLayout := reads.visible character (by simp)
      simp only [noLayout, Bool.false_eq_true, false_iff, byteLength_append, byteLength_cons]
      omega
    · -- Behind the piece: the first token stops before the character.
      have others := ih afterEq
      simp only [byteLength_append, Nat.add_assoc] at others ⊢
      rw [others]
      refine ⟨fun uncovered => ⟨by omega, uncovered⟩, And.right⟩

/-- The gaps and what the tokens cover, by turns. -/
theorem exists_weave (tiles : Tiles lineFeeds before rest tokens) :
    ∃ gaps pieces, rest = weave gaps pieces ∧ gaps.length = tokens.length + 1 ∧
      (∀ gap ∈ gaps, ∀ character ∈ gap, isLayout lineFeeds character = true) ∧
      List.Forall₂ (fun token piece => token.text =
        if lineFeeds = true ∧ piece = ['\n'] then ";" else String.ofList piece) tokens pieces := by
  induction tiles with
  | @gap before gap layout => exact ⟨[gap], [], by simp [weave], rfl, by simpa using layout, .nil⟩
  | @token before gap piece after first others layout spanEq reads tiled ih =>
    obtain ⟨gaps, pieces, afterEq, count, allLayout, texts⟩ := ih
    refine ⟨gap :: gaps, piece :: pieces, ?_, ?_, ?_, .cons reads.text_eq texts⟩
    · rw [afterEq]
      rfl
    · rw [List.length_cons, count, List.length_cons]
    · exact List.forall_mem_cons.mpr ⟨layout, allLayout⟩

end Tiles

/-- A token of a category that words have. -/
def TokenKind.isWord : TokenKind → Bool
  | literal | keyword _ => true
  | _ => false

namespace Token.Reads

variable {lineFeeds : Bool} {token : Token} {before piece after : List Char}

theorem isWholeWord (reads : token.Reads lineFeeds before after piece)
    (isWord : token.kind.isWord = true) : token.IsWholeWord before piece after := by
  cases reads with
  | word whole => exact whole
  | @single character alone =>
    rw [alone.kind_eq] at isWord
    unfold punctuationKind at isWord
    split at isWord <;> cases isWord

theorem exists_isSingle (reads : token.Reads lineFeeds before after piece)
    (noWord : token.kind.isWord = false) :
    ∃ character, piece = [character] ∧ token.IsSingle lineFeeds character := by
  cases reads with
  | word whole =>
    rw [whole.kind_eq] at noWord
    unfold wordKind at noWord
    split at noWord <;> cases noWord
  | @single character alone => exact ⟨character, rfl, alone⟩

end Token.Reads

/-- For every text and either meaning of line feeds, the lexer arrives at the end of the text.  Its
tokens follow each other without overlaps.  Each covers a whole word, which is a keyword if it
spells one, or a single character, which is illegal if it has no meaning; and each says what it
covers.  Exactly the layout is left uncovered, so the text is the gaps and what the tokens cover by
turns. -/
theorem Lexer.tokens_tile_text (text : String) (lineFeeds : Bool) :
    ∃ tokens : List Token,
      (ofText text lineFeeds).stream.toList =
        tokens ++ [⟨.endOfInput, "", ⟨text.utf8ByteSize, text.utf8ByteSize⟩⟩] ∧
      tokens.Pairwise (fun first second => first.span.stop ≤ second.span.start) ∧
      (∀ token ∈ tokens, token.kind ≠ .endOfInput ∧ token.span.start < token.span.stop ∧
        ∃ before piece after, text.toList = before ++ piece ++ after ∧
          token.span = ⟨byteLength before, byteLength (before ++ piece)⟩ ∧
          token.text =
            (if lineFeeds = true ∧ piece = ['\n'] then ";" else String.ofList piece) ∧
          (token.kind.isWord = true →
            (∀ character ∈ piece, isWordCharacter character = true) ∧
            (∀ character ∈ before.getLast?, isWordCharacter character = false) ∧
            (∀ character ∈ after.head?, isWordCharacter character = false) ∧
            ∀ keyword, token.kind = .keyword keyword ↔
              Keyword.lookup (String.ofList piece) = some keyword) ∧
          (token.kind.isWord = false →
            ∃ character, piece = [character] ∧
              (token.kind = .illegal ↔
                isLayout lineFeeds character = false ∧ isWordCharacter character = false ∧
                character ∉ ['*', '=', ';', ',', ':', '(', ')'] ∧
                ¬ (lineFeeds = true ∧ character = '\n')))) ∧
      (∀ before character after, text.toList = before ++ character :: after →
        ((character = ' ' ∨ character = '\t' ∨ character = '\r' ∨
            lineFeeds = false ∧ character = '\n') ↔
          ∀ token ∈ tokens, ¬ (token.span.start ≤ byteLength before ∧
            byteLength before < token.span.stop))) ∧
      ∃ gaps pieces, text.toList = weave gaps pieces ∧ gaps.length = tokens.length + 1 ∧
        (∀ gap ∈ gaps, ∀ character ∈ gap, isLayout lineFeeds character = true) ∧
        List.Forall₂ (fun token piece => token.text =
          if lineFeeds = true ∧ piece = ['\n'] then ";" else String.ofList piece)
          tokens pieces := by
  have atStart : Splits [] text.toList := .inl (by simp)
  obtain ⟨tokens, streamEq, tiles⟩ := @tiles_stream [] text.toList lineFeeds atStart
  rw [List.nil_append, byteLength_toList] at streamEq
  refine ⟨tokens, ?_, tiles.pairwise_stop_le_start, fun token member => ?_, ?_,
    tiles.exists_weave⟩
  · exact congrArg TokenStream.toList streamEq
  · obtain ⟨before, piece, after, textEq, spanEq, reads⟩ := tiles.exists_piece token member
    have covered : token.span.start < token.span.stop := by
      have somethingCovered := byteLength_pos reads.nonempty
      rw [spanEq]
      simp only [byteLength_append]
      omega
    refine ⟨reads.kind_ne_endOfInput, covered, before, piece, after, textEq, spanEq,
      reads.text_eq, fun isWord => ?_, fun noWord => ?_⟩
    · have whole := reads.isWholeWord isWord
      refine ⟨whole.inWord, whole.begins, whole.ends, fun keyword => ?_⟩
      rw [whole.kind_eq, wordKind_eq_keyword_iff]
    · obtain ⟨character, pieceEq, alone⟩ := reads.exists_isSingle noWord
      exact ⟨character, pieceEq, alone.kind_eq_illegal_iff⟩
  · intro before character after textEq
    rw [← isLayout_iff]
    exact tiles.isLayout_iff_uncovered textEq

end SqlTree
