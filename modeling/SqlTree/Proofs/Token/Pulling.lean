import Mathlib.Logic.Function.Iterate
import SqlTree.Proofs.Token.Cutting
import SqlTree.Token.Cursor

/-!
# Tokens one at a time

The tokens of a text can be pulled out of the lexer one by one, or the text can be cut up as a whole
and a cursor moved over its tokens.  Either way each call shows the current token of a stream and
leaves the rest of it, so the two give the same tokens, and the end of the input for ever after.
-/

namespace SqlTree

/-! ## The lexer -/

namespace Lexer

/-- The lexer after the given number of calls. -/
def afterCalls (lexer : Lexer) (calls : Nat) : Lexer :=
  (fun lexer => lexer.next.2)^[calls] lexer

theorem afterCalls_succ (lexer : Lexer) (calls : Nat) :
    lexer.afterCalls (calls + 1) = (lexer.afterCalls calls).next.2 :=
  Function.iterate_succ_apply' _ calls lexer

theorem pull_succ (lexer : Lexer) (count : Nat) :
    lexer.pull (count + 1) = lexer.pull count ++ [(lexer.afterCalls count).next.1] := by
  induction count generalizing lexer with
  | zero => rfl
  | succ count ih =>
    rw [pull, ih lexer.next.2, pull, List.cons_append]
    rfl

/-- At the end of the text the lexer stays where it is. -/
theorem eq_of_next_isEnd {lexer : Lexer} (atEnd : lexer.next.1.isEnd = true) :
    lexer.next.1 = Token.endAt lexer.next.2.offset ∧ lexer.next.2.rest = [] := by
  cases skipped : lexer.skipLayout.rest with
  | nil => simp [next, scan, skipped]
  | cons character following =>
    cases inWord : isWordCharacter character with
    | false =>
      simp [next, scan, skipped, inWord, punctuation, Token.isEnd,
        punctuationKind_ne_endOfInput] at atEnd
    | true =>
      simp [next, scan, skipped, inWord, word, Token.isEnd, wordKind_ne_endOfInput] at atEnd

theorem stream_of_rest_eq_nil {lexer : Lexer} (nothing : lexer.rest = []) :
    lexer.stream = ⟨[], lexer.offset⟩ := by
  obtain ⟨rest, offset, lineFeeds⟩ := lexer
  obtain rfl : rest = [] := nothing
  exact stream_nil offset lineFeeds

/-- A call returns the current token of the stream and leaves the rest of it. -/
theorem next_eq_current (lexer : Lexer) :
    lexer.next.1 = lexer.stream.current ∧ lexer.next.2.stream = lexer.stream.advance := by
  cases ended : lexer.next.1.isEnd with
  | false =>
    rw [stream_of_unfinished ended]
    exact ⟨rfl, rfl⟩
  | true =>
    obtain ⟨endEq, nothingLeft⟩ := eq_of_next_isEnd ended
    rw [stream_of_atEnd ended, stream_of_rest_eq_nil nothingLeft, endEq]
    exact ⟨rfl, rfl⟩

end Lexer

/-! ## The cursor -/

namespace TokenCursor

/-- The cursor after the given number of calls. -/
def afterCalls (cursor : TokenCursor) (calls : Nat) : TokenCursor :=
  (fun cursor => cursor.next.2)^[calls] cursor

theorem afterCalls_succ (cursor : TokenCursor) (calls : Nat) :
    cursor.afterCalls (calls + 1) = (cursor.afterCalls calls).next.2 :=
  Function.iterate_succ_apply' _ calls cursor

/-- The tokens from the position of the cursor on are those of the stream. -/
structure Shows (cursor : TokenCursor) (stream : TokenStream) : Prop where
  ahead : cursor.body.drop cursor.position = stream.ahead
  final : cursor.final = Token.endAt stream.stop
  within : cursor.position ≤ cursor.body.length

theorem ofList_toList (stream : TokenStream) :
    ofList stream.toList = ⟨stream.ahead, Token.endAt stream.stop, 0⟩ := by
  simp [ofList, TokenStream.toList]

theorem shows_ofList (stream : TokenStream) : (ofList stream.toList).Shows stream := by
  rw [ofList_toList]
  exact ⟨rfl, rfl, Nat.zero_le _⟩

namespace Shows

variable {cursor : TokenCursor} {stream : TokenStream}

theorem current_eq (shows : cursor.Shows stream) : cursor.current = stream.current := by
  have head : cursor.body[cursor.position]? = stream.ahead.head? := by
    rw [← shows.ahead, List.head?_drop]
  rw [current, tokenAt, head, shows.final]
  rfl

theorem advance (shows : cursor.Shows stream) : cursor.advance.Shows stream.advance := by
  unfold TokenCursor.advance
  split
  · next inside =>
    refine ⟨?_, shows.final, inside⟩
    change _ = stream.ahead.tail
    rw [← shows.ahead, List.tail_drop]
  · next last =>
    have atEnd : cursor.position = cursor.body.length := by
      have within := shows.within
      omega
    refine ⟨?_, shows.final, shows.within⟩
    change _ = stream.ahead.tail
    rw [← shows.ahead, atEnd, List.drop_length, List.tail_nil]

end Shows

end TokenCursor

/-! ## Both -/

namespace Lexer

/-- The cursor at the start of the tokens of the whole rest of a text. -/
def cursor (lexer : Lexer) : TokenCursor :=
  TokenCursor.ofList lexer.stream.toList

/-- After any number of calls the cursor stands where the lexer is.  The induction takes one call of
each at a time. -/
theorem shows_afterCalls (lexer : Lexer) (calls : Nat) :
    (lexer.cursor.afterCalls calls).Shows (lexer.afterCalls calls).stream := by
  induction calls with
  | zero => exact TokenCursor.shows_ofList lexer.stream
  | succ calls ih =>
    rw [TokenCursor.afterCalls_succ, afterCalls_succ, (next_eq_current _).2]
    exact ih.advance

/-- Once the end of the input is returned, every further call returns it again. -/
theorem next_afterCalls_of_isEnd {lexer : Lexer} {calls : Nat}
    (atEnd : (lexer.afterCalls calls).next.1.isEnd = true) (more : Nat) :
    (lexer.afterCalls (calls + more)).next.1 = (lexer.afterCalls calls).next.1 := by
  have endStays : (lexer.afterCalls (calls + more)).stream = (lexer.afterCalls calls).stream := by
    induction more with
    | zero => rfl
    | succ more ih =>
      rw [← Nat.add_assoc, afterCalls_succ, (next_eq_current _).2, ih, stream_of_atEnd atEnd]
      rfl
  rw [(next_eq_current _).1, (next_eq_current _).1, endStays]

/-- For every text, either meaning of line feeds and any number of calls, the next call returns the
same token whether the tokens are pulled out of the lexer or read with a cursor over all of them.
Before the call the cursor shows the token already, and says that it has a next one unless the token
is the end of the input.  From the first end of the input on, every call returns this same token. -/
theorem cursor_returns_pulled_tokens (text : String) (lineFeeds : Bool) (calls : Nat) :
    ∃ token : Token,
      (ofText text lineFeeds).pull (calls + 1) = (ofText text lineFeeds).pull calls ++ [token] ∧
      ((ofText text lineFeeds).afterCalls calls).next.1 = token ∧
      ((ofText text lineFeeds).cursor.afterCalls calls).next.1 = token ∧
      ((ofText text lineFeeds).cursor.afterCalls calls).current = token ∧
      (((ofText text lineFeeds).cursor.afterCalls calls).hasNext = true ↔
        token.kind ≠ .endOfInput) ∧
      (token.kind = .endOfInput → ∀ more,
        ((ofText text lineFeeds).afterCalls (calls + more)).next.1 = token ∧
        ((ofText text lineFeeds).cursor.afterCalls (calls + more)).next.1 = token) := by
  have sameToken (calls : Nat) : ((ofText text lineFeeds).cursor.afterCalls calls).current =
      ((ofText text lineFeeds).afterCalls calls).next.1 := by
    rw [(shows_afterCalls _ calls).current_eq, (next_eq_current _).1]
  refine ⟨_, pull_succ _ calls, rfl, sameToken calls, sameToken calls, ?_, fun isEnd more => ?_⟩
  · simp [TokenCursor.hasNext, sameToken, Token.isEnd]
  · have atEnd : ((ofText text lineFeeds).afterCalls calls).next.1.isEnd = true := by
      simpa [Token.isEnd] using isEnd
    have stays := next_afterCalls_of_isEnd atEnd more
    exact ⟨stays, (sameToken (calls + more)).trans stays⟩

/-- Behind a word, a line feed and a mark comes the end of the input, a blank notwithstanding. -/
theorem cursor_returns_pulled_tokens_behind_mark :
    ∃ token : Token,
      (ofText "id\n = " true).pull 4 = (ofText "id\n = " true).pull 3 ++ [token] ∧
      token.kind = .endOfInput ∧
      ∀ more, ((ofText "id\n = " true).cursor.afterCalls (3 + more)).next.1 = token := by
  obtain ⟨token, pulled, returned, -, -, -, stays⟩ :=
    cursor_returns_pulled_tokens "id\n = " true 3
  have isEnd : token.kind = .endOfInput := by
    rw [← returned]
    decide +kernel
  exact ⟨token, pulled, isEnd, fun more => (stays isEnd more).2⟩

end Lexer

end SqlTree
