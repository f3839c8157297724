import SqlTree.Proofs.Token.Spelling
import SqlTree.Proofs.Token.Tiling

/-!
# Texts behind each other

Where no word goes on from one text to the next, the tokens of the whole are those of the first text
and, further on, those of the second.  So a text spells its own tokens, wherever it stands, and
layout keeps any two texts apart.
-/

namespace SqlTree

open Lexer (EndsWord Cuts isLayout)

namespace Lexer

theorem Cuts.shift {lexer rest : Lexer} {tokens : List Token} (cuts : lexer.Cuts tokens rest)
    (distance : Nat) :
    (lexer.shift distance).Cuts (tokens.map (Token.shift distance)) (rest.shift distance) := by
  unfold Cuts at *
  rw [stream_shift, cuts, stream_shift]
  simp [TokenStream.shift, TokenStream.prepend]

end Lexer

/-- A token is cut off also where more text follows, as long as no word goes on there. -/
theorem Token.Reads.cuts {lineFeeds : Bool} {token : Token} {before piece after rest : List Char}
    (reads : token.Reads lineFeeds before after piece)
    (spanEq : token.span = ⟨byteLength before, byteLength (before ++ piece)⟩)
    (ends : EndsWord after → EndsWord rest) :
    Cuts ⟨piece ++ rest, byteLength before, lineFeeds⟩ [token]
      ⟨rest, byteLength (before ++ piece), lineFeeds⟩ := by
  obtain ⟨kind, text, span⟩ := token
  simp only at spanEq
  subst spanEq
  cases reads with
  | word whole =>
    obtain rfl : text = String.ofList piece := whole.text_eq
    obtain rfl : kind = wordKind (String.ofList piece) := whole.kind_eq
    exact (Lexer.takes_word whole.nonempty whole.inWord whole.begins (ends whole.ends) _).cuts
  | @single character alone =>
    obtain rfl : text = punctuationText character := alone.text_eq
    obtain rfl : kind = punctuationKind character := alone.kind_eq
    exact (Lexer.takes_single alone.noWord alone.visible rest).cuts

/-- The tokens that tile a text are cut off also where more text follows.  The induction takes one
token at a time, with the gap in front of it. -/
theorem Tiles.cuts {lineFeeds : Bool} {before characters rest : List Char} {tokens : List Token}
    (tiles : Tiles lineFeeds before characters tokens) (ends : EndsWord rest) :
    Cuts ⟨characters ++ rest, byteLength before, lineFeeds⟩ tokens
      ⟨rest, byteLength (before ++ characters), lineFeeds⟩ := by
  induction tiles with
  | @gap before gap layout =>
    rw [byteLength_append]
    exact Lexer.cuts_layout layout rest (byteLength before)
  | @token before gap piece after token others layout spanEq reads tiled ih =>
    have cutsGap := Lexer.cuts_layout layout (piece ++ (after ++ rest)) (byteLength before)
    rw [← byteLength_append] at cutsGap
    have cutsToken := reads.cuts spanEq fun endsAfter => endsAfter.append ends
    have cutsAll := cutsGap.trans (cutsToken.trans ih)
    simpa using cutsAll

/-- Where no word goes on behind it, a text is cut into the tokens that it has by itself. -/
theorem Lexer.cuts_stream (characters : List Char) (lineFeeds : Bool) {rest : List Char}
    (ends : EndsWord rest) (offset : Nat) :
    Cuts ⟨characters ++ rest, offset, lineFeeds⟩
      ((Lexer.stream ⟨characters, 0, lineFeeds⟩).ahead.map (Token.shift offset))
      ⟨rest, offset + byteLength characters, lineFeeds⟩ := by
  have atStart : Splits [] characters := .inl (by simp)
  obtain ⟨tokens, streamEq, tiles⟩ := @tiles_stream [] characters lineFeeds atStart
  rw [byteLength_nil] at streamEq
  have cuts := (tiles.cuts ends).shift offset
  simp only [Lexer.shift, List.nil_append, byteLength_nil, Nat.zero_add] at cuts
  rw [streamEq, Nat.add_comm offset]
  exact cuts

/-- A text spells its own tokens. -/
theorem spells_ofText (text : String) :
    Spells text.toList ((TokenStream.ofText text).ahead.map Token.lexeme) := by
  intro rest offset ends
  refine ⟨_, ?_, Lexer.cuts_stream text.toList false ends offset⟩
  rw [List.map_map]
  rfl

/-! ## Layout between texts -/

/-- Layout keeps any two texts apart: the whole has the tokens of the first text, without its end,
and behind them those of the second, each as many bytes further on as come before the second. -/
theorem Lexer.tokens_across_layout (first gap second : String) (lineFeeds : Bool)
    (nonempty : gap ≠ "")
    (layout : ∀ character ∈ gap.toList, character = ' ' ∨ character = '\t' ∨ character = '\r' ∨
      lineFeeds = false ∧ character = '\n') :
    ∃ tokens : List Token,
      (ofText first lineFeeds).stream.toList =
        tokens ++ [⟨.endOfInput, "", ⟨first.utf8ByteSize, first.utf8ByteSize⟩⟩] ∧
      (ofText (first ++ gap ++ second) lineFeeds).stream.toList =
        tokens ++ (ofText second lineFeeds).stream.toList.map
          (Token.shift (first ++ gap).utf8ByteSize) := by
  have gapIsLayout : ∀ character ∈ gap.toList, isLayout lineFeeds character = true :=
    fun character member => (isLayout_iff lineFeeds character).mpr (layout character member)
  have someLayout : gap.toList ≠ [] := by simpa using nonempty
  have atStart : Splits [] first.toList := .inl (by simp)
  obtain ⟨tokens, streamEq, tiles⟩ := @tiles_stream [] first.toList lineFeeds atStart
  have cutsFirst := tiles.cuts (endsWord_append_of_layout someLayout gapIsLayout second.toList)
  have cutsGap := cuts_layout gapIsLayout second.toList (byteLength first.toList)
  have secondFurtherOn := stream_shift (byteLength first.toList + byteLength gap.toList)
    ⟨second.toList, 0, lineFeeds⟩
  simp only [List.nil_append, byteLength_nil] at streamEq cutsFirst
  simp only [shift, Nat.zero_add] at secondFurtherOn
  refine ⟨tokens, ?_, ?_⟩
  · rw [ofText, streamEq, byteLength_toList]
    rfl
  · have textEq : (first ++ gap ++ second).toList =
        first.toList ++ (gap.toList ++ second.toList) := by simp
    have cutsBoth : stream ⟨first.toList ++ (gap.toList ++ second.toList), 0, lineFeeds⟩ = _ :=
      cutsFirst.trans cutsGap
    rw [ofText, textEq, cutsBoth, secondFurtherOn, TokenStream.toList_prepend,
      TokenStream.toList_shift, List.append_nil, ← byteLength_append, ← String.toList_append,
      byteLength_toList]
    rfl

/-- Two words are kept apart, the second as many bytes further on, not characters. -/
theorem Lexer.tokens_across_layout_between_words :
    ∃ tokens : List Token,
      (ofText "prénom" true).stream.toList = tokens ++ [⟨.endOfInput, "", ⟨7, 7⟩⟩] ∧
      (ofText "prénom\t\rnom = 1" true).stream.toList =
        tokens ++ (ofText "nom = 1" true).stream.toList.map (Token.shift 9) :=
  tokens_across_layout "prénom" "\t\r" "nom = 1" true (by decide) (by simp)

end SqlTree
