import SqlTree.Token.Lexer

/-!
# How text is cut

What the lexer takes off the front of a text, whatever comes behind it: a blank, a word that no word
character follows, or a mark.  The place at which a text stands decides only which bytes its tokens
cover.
-/

namespace SqlTree

namespace TokenStream

/-- The stream with further tokens in front. -/
def prepend (tokens : List Token) (stream : TokenStream) : TokenStream :=
  { stream with ahead := tokens ++ stream.ahead }

/-- The same tokens in a text in which `distance` more bytes come first. -/
def shift (distance : Nat) (stream : TokenStream) : TokenStream :=
  ⟨stream.ahead.map (Token.shift distance), stream.stop + distance⟩

theorem prepend_append (first second : List Token) (stream : TokenStream) :
    stream.prepend (first ++ second) = (stream.prepend second).prepend first := by
  simp [prepend]

@[simp]
theorem toList_prepend (tokens : List Token) (stream : TokenStream) :
    (stream.prepend tokens).toList = tokens ++ stream.toList := by
  simp [prepend, toList]

theorem shift_push (distance : Nat) (token : Token) (stream : TokenStream) :
    (stream.push token).shift distance = (stream.shift distance).push (token.shift distance) :=
  rfl

theorem shift_shift (first second : Nat) (stream : TokenStream) :
    (stream.shift first).shift second = stream.shift (first + second) := by
  simp [shift, Token.shift, Span.shift, Function.comp_def, Nat.add_assoc]

@[simp]
theorem toList_shift (distance : Nat) (stream : TokenStream) :
    (stream.shift distance).toList = stream.toList.map (Token.shift distance) := by
  simp [shift, toList, Token.shift, Span.shift, Token.endAt]

end TokenStream

namespace Lexer

/-! ## Where a text stands -/

/-- The same rest of a text in which `distance` more bytes come first. -/
def shift (distance : Nat) (lexer : Lexer) : Lexer :=
  { lexer with offset := lexer.offset + distance }

theorem skip_shift (inClass : Char → Bool) (distance : Nat) (lexer : Lexer) :
    (lexer.shift distance).skip inClass = (lexer.skip inClass).shift distance := by
  simp only [shift, skip, Nat.add_right_comm]

theorem scan_shift (distance : Nat) (lexer : Lexer) :
    (lexer.shift distance).scan = (lexer.scan.1.shift distance, lexer.scan.2.shift distance) := by
  obtain ⟨rest, offset, lineFeeds⟩ := lexer
  cases rest with
  | nil => rfl
  | cons character following =>
    cases inWord : isWordCharacter character with
    | false => simp [scan, shift, inWord, punctuation, Token.shift, Span.shift, Nat.add_right_comm]
    | true =>
      simp [scan, shift, inWord, word, skip, Token.shift, Span.shift, Nat.add_right_comm]

theorem next_shift (distance : Nat) (lexer : Lexer) :
    (lexer.shift distance).next = (lexer.next.1.shift distance, lexer.next.2.shift distance) := by
  have layoutShift : (lexer.shift distance).skipLayout = lexer.skipLayout.shift distance :=
    skip_shift _ distance lexer
  rw [next, layoutShift, scan_shift]
  rfl

theorem stream_of_unfinished {lexer : Lexer} (unfinished : lexer.next.1.isEnd = false) :
    lexer.stream = lexer.next.2.stream.push lexer.next.1 := by
  rw [stream]
  simp [unfinished]

theorem stream_of_atEnd {lexer : Lexer} (atEnd : lexer.next.1.isEnd = true) :
    lexer.stream = ⟨[], lexer.next.1.span.stop⟩ := by
  rw [stream]
  simp [atEnd]

/-- A text behind other text has the tokens it has by itself, each further on. -/
theorem stream_shift (distance : Nat) (lexer : Lexer) :
    (lexer.shift distance).stream = lexer.stream.shift distance := by
  fun_induction stream lexer with
  | case1 lexer atEnd =>
    have shiftedEnd : (lexer.shift distance).next.1.isEnd = true := by
      rw [next_shift]
      exact atEnd
    rw [stream_of_atEnd shiftedEnd, next_shift]
    rfl
  | case2 lexer unfinished ih =>
    have shiftedUnfinished : (lexer.shift distance).next.1.isEnd = false := by
      rw [next_shift]
      change lexer.next.1.isEnd = false
      simpa using unfinished
    rw [stream_of_unfinished shiftedUnfinished, next_shift, TokenStream.shift_push, ← ih]

/-! ## What is cut off -/

/-- The tokens are cut off the front of the text, and what the second lexer reads is left. -/
def Cuts (lexer : Lexer) (tokens : List Token) (rest : Lexer) : Prop :=
  lexer.stream = rest.stream.prepend tokens

theorem Cuts.trans {first middle last : Lexer} {firstTokens lastTokens : List Token}
    (cutsFirst : first.Cuts firstTokens middle) (cutsLast : middle.Cuts lastTokens last) :
    first.Cuts (firstTokens ++ lastTokens) last := by
  unfold Cuts at *
  rw [cutsFirst, cutsLast, TokenStream.prepend_append]

theorem Cuts.of_next {lexer : Lexer} (unfinished : lexer.next.1.isEnd = false) :
    lexer.Cuts [lexer.next.1] lexer.next.2 :=
  stream_of_unfinished unfinished

theorem stream_congr {first second : Lexer} (sameNext : first.next = second.next) :
    first.stream = second.stream := by
  conv => rhs; rw [stream]
  rw [stream, sameNext]

/-- A blank leaves no token. -/
theorem cuts_blank (rest : List Char) (offset : Nat) (lineFeeds : Bool) :
    Cuts ⟨' ' :: rest, offset, lineFeeds⟩ [] ⟨rest, offset + 1, lineFeeds⟩ := by
  have sameLayout : skipLayout ⟨' ' :: rest, offset, lineFeeds⟩ =
      skipLayout ⟨rest, offset + 1, lineFeeds⟩ := by
    have blankSize : ' '.utf8Size = 1 := rfl
    simp [skipLayout, skip, isLayout, blankSize, Nat.add_assoc]
  exact stream_congr (congrArg scan sameLayout)

/-- What follows cannot be read as part of a word. -/
def EndsWord (rest : List Char) : Prop :=
  ∀ character ∈ rest.head?, isWordCharacter character = false

theorem endsWord_nil : EndsWord [] := by
  intro character first
  cases first

theorem endsWord_cons {character : Char} (noWord : isWordCharacter character = false)
    (following : List Char) : EndsWord (character :: following) := by
  intro first isFirst
  cases isFirst
  exact noWord

theorem endsWord_blank (following : List Char) : EndsWord (' ' :: following) :=
  endsWord_cons (by decide) following

theorem endsWord_closing (following : List Char) : EndsWord (')' :: following) :=
  endsWord_cons (by decide) following

theorem EndsWord.append {first rest : List Char} (endsFirst : EndsWord first)
    (endsRest : EndsWord rest) : EndsWord (first ++ rest) := by
  cases first with
  | nil => exact endsRest
  | cons character following => exact endsFirst

theorem skipLayout_of_cons {character : Char} {lineFeeds : Bool}
    (visible : isLayout lineFeeds character = false) (following : List Char) (offset : Nat) :
    skipLayout ⟨character :: following, offset, lineFeeds⟩ =
      ⟨character :: following, offset, lineFeeds⟩ := by
  simp [skipLayout, skip, visible]

theorem isLayout_of_isWordCharacter {character : Char}
    (inWord : isWordCharacter character = true) (lineFeeds : Bool) :
    isLayout lineFeeds character = false := by
  have distinct (blank : Char) (noWord : isWordCharacter blank = false) :
      (character == blank) = false := by
    apply beq_false_of_ne
    rintro rfl
    rw [noWord] at inWord
    cases inWord
  have noSpace := distinct ' ' (by decide)
  have noTab := distinct '\t' (by decide)
  have noReturn := distinct '\r' (by decide)
  have noLineFeed := distinct '\n' (by decide)
  simp [isLayout, noSpace, noTab, noReturn, noLineFeed]

theorem takeWhile_word {word rest : List Char}
    (inWord : ∀ character ∈ word, isWordCharacter character = true) (ends : EndsWord rest) :
    (word ++ rest).takeWhile isWordCharacter = word := by
  rw [List.takeWhile_append_of_pos inWord]
  cases rest with
  | nil => simp
  | cons character following => simp [ends character rfl]

theorem dropWhile_word {word rest : List Char}
    (inWord : ∀ character ∈ word, isWordCharacter character = true) (ends : EndsWord rest) :
    (word ++ rest).dropWhile isWordCharacter = rest := by
  rw [List.dropWhile_append_of_pos inWord]
  cases rest with
  | nil => rfl
  | cons character following => simp [ends character rfl]

/-- A word is cut off as a whole where no word character follows. -/
theorem cuts_word {text : List Char} (nonempty : text ≠ [])
    (inWord : ∀ character ∈ text, isWordCharacter character = true) {rest : List Char}
    (ends : EndsWord rest) (offset : Nat) (lineFeeds : Bool) :
    Cuts ⟨text ++ rest, offset, lineFeeds⟩
      [⟨wordKind (String.ofList text), String.ofList text, ⟨offset, offset + byteLength text⟩⟩]
      ⟨rest, offset + byteLength text, lineFeeds⟩ := by
  obtain ⟨first, others, rfl⟩ := List.exists_cons_of_ne_nil nonempty
  have firstInWord : isWordCharacter first = true := inWord first List.mem_cons_self
  have visible := isLayout_of_isWordCharacter firstInWord lineFeeds
  have taken := takeWhile_word inWord ends
  have dropped := dropWhile_word inWord ends
  rw [List.cons_append] at taken dropped ⊢
  have nextEq : next ⟨first :: (others ++ rest), offset, lineFeeds⟩ =
      (⟨wordKind (String.ofList (first :: others)), String.ofList (first :: others),
        ⟨offset, offset + byteLength (first :: others)⟩⟩,
      ⟨rest, offset + byteLength (first :: others), lineFeeds⟩) := by
    rw [next, skipLayout_of_cons visible]
    simp only [scan, firstInWord, if_true, word, skip, taken, dropped]
  have unfinished : (next ⟨first :: (others ++ rest), offset, lineFeeds⟩).1.isEnd = false := by
    rw [nextEq]
    simp [Token.isEnd, wordKind_ne_endOfInput]
  have cuts := Cuts.of_next unfinished
  rw [nextEq] at cuts
  exact cuts

/-- A character that is neither layout nor part of a word is a token of its own. -/
theorem cuts_mark {mark : Char} {lineFeeds : Bool} (noWord : isWordCharacter mark = false)
    (visible : isLayout lineFeeds mark = false) (rest : List Char) (offset : Nat) :
    Cuts ⟨mark :: rest, offset, lineFeeds⟩
      [⟨punctuationKind mark, punctuationText mark, ⟨offset, offset + mark.utf8Size⟩⟩]
      ⟨rest, offset + mark.utf8Size, lineFeeds⟩ := by
  have nextEq : next ⟨mark :: rest, offset, lineFeeds⟩ =
      (⟨punctuationKind mark, punctuationText mark, ⟨offset, offset + mark.utf8Size⟩⟩,
      ⟨rest, offset + mark.utf8Size, lineFeeds⟩) := by
    rw [next, skipLayout_of_cons visible]
    simp [scan, noWord, punctuation]
  have unfinished : (next ⟨mark :: rest, offset, lineFeeds⟩).1.isEnd = false := by
    rw [nextEq]
    simp [Token.isEnd, punctuationKind_ne_endOfInput]
  have cuts := Cuts.of_next unfinished
  rw [nextEq] at cuts
  exact cuts

theorem stream_nil (offset : Nat) (lineFeeds : Bool) :
    stream ⟨[], offset, lineFeeds⟩ = ⟨[], offset⟩ := by
  have atEnd : (next ⟨[], offset, lineFeeds⟩).1.isEnd = true := rfl
  rw [stream_of_atEnd atEnd]
  rfl

end Lexer

end SqlTree
