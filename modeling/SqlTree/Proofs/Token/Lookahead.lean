import Mathlib.Data.List.Basic
import SqlTree.Proofs.Token.Pulling

/-!
# Looking ahead

What a cursor shows at a distance is the token that as many calls and one more return last, and the
end of the input wherever the calls run past the list.  The index looked at is computed in words of
64 bits, before it is kept within the list.  So this holds as long as the sum of the position and
the distance is such a word.  A greater sum is an error, although the calls return the end of the
input.
-/

namespace SqlTree.TokenCursor

/-! ## The list of a cursor -/

theorem position_ofList (tokens : List Token) : (ofList tokens).position = 0 := by
  unfold ofList
  split
  · rfl
  · split <;> rfl

theorem final_ofList_isEnd (tokens : List Token) : (ofList tokens).final.isEnd = true := by
  unfold ofList
  split
  · rfl
  · split
    · next isEnd => exact isEnd
    · rfl

/-- The tokens with the end of the input behind them, unless they end with it. -/
def withEnd (tokens : List Token) : List Token :=
  if tokens.getLast?.any Token.isEnd then tokens
  else tokens ++ [Token.endAt ((tokens.getLast?.map fun last => last.span.stop).getD 0)]

theorem tokens_ofList (tokens : List Token) :
    (ofList tokens).body ++ [(ofList tokens).final] = withEnd tokens := by
  unfold ofList withEnd
  split
  · next nothing =>
    rw [List.getLast?_eq_none_iff.mp nothing]
    rfl
  · next last found =>
    cases isEnd : last.isEnd with
    | false => simp [found, isEnd]
    | true => simp [found, isEnd, List.dropLast_append_getLast? last found]

theorem length_body_ofList_le (tokens : List Token) :
    (ofList tokens).body.length ≤ tokens.length := by
  have lengths := congrArg List.length (tokens_ofList tokens)
  unfold withEnd at lengths
  split at lengths <;> simp only [List.length_append, List.length_singleton] at lengths <;> omega

theorem tokenAt_of_length_le {cursor : TokenCursor} {index : Nat}
    (behind : cursor.body.length ≤ index) : cursor.tokenAt index = cursor.final := by
  rw [tokenAt, List.getElem?_eq_none behind, Option.getD_none]

/-- An index shows the same token when it is kept within the list. -/
theorem tokenAt_min (cursor : TokenCursor) (index : Nat) :
    cursor.tokenAt (min index cursor.body.length) = cursor.tokenAt index := by
  rcases Nat.le_total index cursor.body.length with inside | behind
  · rw [Nat.min_eq_left inside]
  · rw [Nat.min_eq_right behind, tokenAt_of_length_le behind, tokenAt_of_length_le (Nat.le_refl _)]

/-! ## The index looked at -/

section Index

variable {cursor : TokenCursor} {distance : UInt64}

theorem index_of_fits (fits : cursor.position + distance.toNat < UInt64.size) :
    cursor.index distance = .ok (min (cursor.position + distance.toNat) cursor.body.length) :=
  if_pos fits

theorem index_of_overflows (overflows : UInt64.size ≤ cursor.position + distance.toNat) :
    cursor.index distance = .error .sumOverflows :=
  if_neg (Nat.not_lt.mpr overflows)

theorem peek_of_fits (fits : cursor.position + distance.toNat < UInt64.size) :
    cursor.peek distance = .ok (cursor.tokenAt (cursor.position + distance.toNat)) := by
  rw [peek, index_of_fits fits]
  exact congrArg Except.ok (cursor.tokenAt_min (cursor.position + distance.toNat))

theorem peek_of_overflows (overflows : UInt64.size ≤ cursor.position + distance.toNat) :
    cursor.peek distance = .error .sumOverflows := by
  rw [peek, index_of_overflows overflows]
  rfl

/-- At no distance the cursor shows its current token. -/
theorem peek_zero (positionFits : cursor.position < UInt64.size) :
    cursor.peek 0 = .ok cursor.current :=
  peek_of_fits positionFits

end Index

/-! ## Calls -/

section Calls

variable {cursor : TokenCursor} (within : cursor.position ≤ cursor.body.length)

include within

/-- Each call moves the cursor on by one token, up to the last one. -/
theorem afterCalls_eq (calls : Nat) :
    cursor.afterCalls calls =
      { cursor with position := min (cursor.position + calls) cursor.body.length } := by
  induction calls with
  | zero =>
    rw [Nat.add_zero, Nat.min_eq_left within]
    rfl
  | succ calls ih =>
    rw [afterCalls_succ, ih]
    simp only [next, advance]
    split
    · next inside =>
      congr 1
      omega
    · next last =>
      congr 1
      omega

/-- After any number of calls, the next one returns the token that is as far ahead. -/
theorem returned_eq_tokenAt (calls : Nat) :
    (cursor.afterCalls calls).next.1 = cursor.tokenAt (cursor.position + calls) := by
  rw [afterCalls_eq within]
  exact cursor.tokenAt_min (cursor.position + calls)

theorem returned_of_length_le {calls : Nat}
    (pastList : cursor.body.length ≤ cursor.position + calls) :
    (cursor.afterCalls calls).next.1 = cursor.final := by
  rw [returned_eq_tokenAt within, tokenAt_of_length_le pastList]

end Calls

theorem within_ofList (tokens : List Token) :
    (ofList tokens).position ≤ (ofList tokens).body.length := by
  rw [position_ofList]
  exact Nat.zero_le _

/-- The cursor over a list after any number of calls. -/
theorem afterCalls_ofList (tokens : List Token) (calls : Nat) :
    (ofList tokens).afterCalls calls =
      { ofList tokens with position := min calls (ofList tokens).body.length } := by
  rw [afterCalls_eq (within_ofList tokens), position_ofList, Nat.zero_add]

/-! ## Look-ahead against calls -/

/-- For every list of tokens, after any number of calls and for every distance, let the position and
the distance be added.  If the sum is a word of 64 bits, the index looked at is the sum kept within
the list, and the cursor shows the token that the last of as many further calls and one more
returns; at no distance this is its current token.  If the sum is greater, the cursor fails to look
ahead, although these calls return the end of the input.

The list is the given one, with the end of the input added unless it ends with it.  This last token
is returned whenever the calls run past the list. -/
theorem peek_unless_sum_overflows (tokens : List Token) (calls : Nat) (distance : UInt64) :
    let cursor := (ofList tokens).afterCalls calls
    let returned := (cursor.afterCalls distance.toNat).next.1
    (cursor.body ++ [cursor.final] = withEnd tokens ∧ cursor.final.isEnd = true) ∧
    cursor.position = min calls cursor.body.length ∧
    (cursor.body.length ≤ calls + distance.toNat → returned = cursor.final) ∧
    (cursor.position < UInt64.size → cursor.peek 0 = .ok cursor.current) ∧
    (cursor.position + distance.toNat < UInt64.size →
      cursor.index distance = .ok (min (cursor.position + distance.toNat) cursor.body.length) ∧
      cursor.peek distance = .ok returned ∧
      ∀ kind, cursor.isPeek distance kind = .ok (returned.kind == kind)) ∧
    (UInt64.size ≤ cursor.position + distance.toNat →
      cursor.index distance = .error .sumOverflows ∧
      cursor.peek distance = .error .sumOverflows ∧
      (∀ kind, cursor.isPeek distance kind = .error .sumOverflows) ∧
      (tokens.length < UInt64.size → returned = cursor.final)) := by
  intro cursor returned
  have cursorEq :
      cursor = { ofList tokens with position := min calls (ofList tokens).body.length } :=
    afterCalls_ofList tokens calls
  have positionEq : cursor.position = min calls cursor.body.length := by rw [cursorEq]
  have within : cursor.position ≤ cursor.body.length := by omega
  refine ⟨?_, positionEq, ?_, peek_zero, ?_, ?_⟩
  · rw [cursorEq]
    exact ⟨tokens_ofList tokens, final_ofList_isEnd tokens⟩
  · intro pastList
    apply returned_of_length_le within
    omega
  · intro fits
    have shown : cursor.peek distance = .ok returned := by
      rw [peek_of_fits fits, ← returned_eq_tokenAt within]
    refine ⟨index_of_fits fits, shown, fun kind => ?_⟩
    rw [isPeek, shown]
    rfl
  · intro overflows
    have nothing : cursor.peek distance = .error .sumOverflows := peek_of_overflows overflows
    refine ⟨index_of_overflows overflows, nothing, fun kind => ?_, fun addressable => ?_⟩
    · rw [isPeek, nothing]
      rfl
    · have bodyFits : cursor.body.length < UInt64.size := by
        rw [cursorEq]
        exact Nat.lt_of_le_of_lt (length_body_ofList_le tokens) addressable
      apply returned_of_length_le within
      omega

/-- Behind the only word of a list, the greatest distance but one leads to the end of the input.  At
the greatest distance the cursor shows nothing, and yet the calls return the end of the input. -/
theorem peek_unless_sum_overflows_behind_word :
    let cursor := (ofList [⟨.literal, "a", ⟨0, 1⟩⟩, ⟨.endOfInput, "", ⟨1, 1⟩⟩]).afterCalls 1
    cursor.peek 18446744073709551614 =
        .ok (cursor.afterCalls (UInt64.toNat 18446744073709551614)).next.1 ∧
      cursor.peek 18446744073709551615 = .error .sumOverflows ∧
      (cursor.afterCalls (UInt64.toNat 18446744073709551615)).next.1 = cursor.final := by
  intro cursor
  have ahead := peek_unless_sum_overflows
    [⟨.literal, "a", ⟨0, 1⟩⟩, ⟨.endOfInput, "", ⟨1, 1⟩⟩] 1
  obtain ⟨-, -, -, -, fits, -⟩ := ahead 18446744073709551614
  obtain ⟨-, -, -, -, -, overflows⟩ := ahead 18446744073709551615
  obtain ⟨-, shown, -⟩ := fits (by decide)
  obtain ⟨-, nothing, -, returned⟩ := overflows (by decide)
  exact ⟨shown, nothing, returned (by decide)⟩

/-- After the only word of a list was returned, every further call returns the end of the input, and
yet at the greatest distance the cursor cannot tell that the input ends. -/
theorem no_token_at_greatest_distance :
    let cursor := (ofList [⟨.literal, "a", ⟨0, 1⟩⟩, ⟨.endOfInput, "", ⟨1, 1⟩⟩]).afterCalls 1
    cursor.peek 18446744073709551615 = .error .sumOverflows ∧
      cursor.isPeek 18446744073709551615 .endOfInput = .error .sumOverflows ∧
      (cursor.afterCalls (UInt64.toNat 18446744073709551615)).next.1 =
        ⟨.endOfInput, "", ⟨1, 1⟩⟩ := by
  intro cursor
  have nothing : cursor.peek 18446744073709551615 = .error .sumOverflows :=
    peek_of_overflows (by decide)
  refine ⟨nothing, ?_, ?_⟩
  · rw [isPeek, nothing]
    rfl
  · have within : cursor.position ≤ cursor.body.length := by decide
    exact returned_of_length_le within (by decide)

end SqlTree.TokenCursor
