import Formula.Proofs.Layouts

namespace Formula

/-- The characters of a text from one position up to another. -/
def Text.slice (text : List Char) (start stop : Nat) : List Char :=
  (text.drop start).take (stop - start)

/-- The spellings that are displayed in another one. -/
def otherSpellings : List (String × Token) :=
  [("=<", .lessEqual), ("=>", .greaterEqual), ("<>", .notEqual)]

/-- How a token can be written: as it is displayed, or in its other spelling if it has one. -/
def Token.Spelling : Token → String → Prop
  | .number text, word | .identifier text, word => word = text
  | t, word => word = t.text ∨ (word, t) ∈ otherSpellings

/-- A token and the positions in front of it and behind it. -/
structure Span where
  token : Token
  start : Nat
  stop : Nat

/-- The characters that a token was read from. -/
def Span.word (span : Span) (text : List Char) : String :=
  .ofList (Text.slice text span.start span.stop)

/-- Spans follow one another from a position of a text up to another. Each holds the spelling of its
token, and all characters between them are blanks. -/
structure Splits (text : List Char) (start stop : Nat) (spans : List Span) : Prop where
  within : ∀ span ∈ spans, start ≤ span.start ∧ span.start < span.stop ∧ span.stop ≤ stop
  apart : spans.Pairwise fun first second => first.stop ≤ second.start
  spelled : ∀ span ∈ spans, span.token.Spelling (span.word text)
  blank : ∀ i c, start ≤ i → i < stop → text[i]? = some c →
    (∀ span ∈ spans, i < span.start ∨ span.stop ≤ i) → Text.isBlank c = true

/-- Reading some tokens, none of which is the end of the text, and marking for each of them where it
starts and where the lexer stands behind it. -/
inductive Lexer.Marks : Lexer → List Span → Lexer → Prop where
  | none : Marks lexer [] lexer
  | more (first : next lexer = .ok t after) (word : t ≠ .finish)
      (others : Marks after spans last) :
      Marks lexer (⟨t, after.tokenStart, after.position⟩ :: spans) last

section

variable {text : List Char} {start stop : Nat} {spans : List Span} {span : Span}

theorem Text.mem_slice (hi : start ≤ i) (hlt : i < stop) (hc : text[i]? = some c) :
    c ∈ slice text start stop := by
  refine List.mem_of_getElem? (i := i - start) ?_
  rw [slice, List.getElem?_take_of_lt (by omega), List.getElem?_drop,
    Nat.add_sub_cancel' hi, hc]

namespace Splits

theorem blanks (gap : Blank (Text.slice text start stop)) : Splits text start stop [] where
  within := by simp
  apart := .nil
  spelled := by simp
  blank _ c hi hlt hc _ := gap c (Text.mem_slice hi hlt hc)

theorem cons (gap : Blank (Text.slice text start span.start)) (ahead : start ≤ span.start)
    (solid : span.start < span.stop) (spelling : span.token.Spelling (span.word text))
    (inside : span.stop ≤ stop) (others : Splits text span.stop stop spans) :
    Splits text start stop (span :: spans) where
  within := by
    refine List.forall_mem_cons.mpr ⟨⟨ahead, solid, inside⟩, fun other mem => ?_⟩
    have := others.within other mem
    omega
  apart := .cons (fun other mem => (others.within other mem).1) others.apart
  spelled := List.forall_mem_cons.mpr ⟨spelling, others.spelled⟩
  blank i c hi hlt hc outside := by
    obtain ⟨first, rest⟩ := List.forall_mem_cons.mp outside
    rcases first with before | behind
    · exact gap c (Text.mem_slice hi before hc)
    · exact others.blank i c behind hlt hc rest

end Splits

end

/-- A lexeme is a spelling of its token. -/
theorem Lexeme.spelling (h : Lexeme word t) : t.Spelling (.ofList word) := by
  have listed : ∀ symbol ∈ symbols, symbol.2.Spelling (.ofList symbol.1) := by
    simp [symbols, Token.Spelling, Token.text, otherSpellings]
  cases h with
  | number | name => exact String.ofList_toList
  | symbol h => exact listed _ h

namespace Lexer

variable {lexer after last : Lexer} {spans : List Span}

theorem slice_skipBlanks (aligned : Aligned lexer) :
    Blank (Text.slice lexer.source.toList lexer.position lexer.skipBlanks.position) := by
  have skipped : Text.slice lexer.source.toList lexer.position lexer.skipBlanks.position =
      lexer.rest.takeWhile Text.isBlank := by
    have prefixed : lexer.rest.takeWhile Text.isBlank <+: lexer.rest := List.takeWhile_prefix _
    rw [Text.slice, ← aligned, skipBlanks, Nat.add_sub_cancel_left]
    exact (List.prefix_iff_eq_take.mp prefixed).symm
  rw [skipped]
  exact fun _ => List.mem_takeWhile_imp

/-- A token is read behind blanks. -/
theorem next_gap (aligned : Aligned lexer) (h : next lexer = .ok t after) :
    Blank (Text.slice lexer.source.toList lexer.position after.tokenStart) ∧
      lexer.position ≤ after.tokenStart := by
  have gap := slice_skipBlanks aligned
  obtain ⟨length, -, rfl⟩ := next_ok h
  exact ⟨gap, Nat.le_add_right ..⟩

/-- The characters of a token that is read are a spelling of it. -/
theorem next_spelling (aligned : Aligned lexer) (h : next lexer = .ok t after)
    (word : t ≠ .finish) : after.tokenStart < after.position ∧ t.Spelling (.ofList
      (Text.slice lexer.source.toList after.tokenStart after.position)) := by
  obtain ⟨length, read, rfl⟩ := next_ok h
  obtain ⟨pos, -⟩ := Reading.ofText_length_pos read word
  refine ⟨Nat.lt_add_of_pos_right pos, ?_⟩
  have characters : Text.slice lexer.source.toList (lexer.skipBlanks.skip length).tokenStart
      (lexer.skipBlanks.skip length).position = lexer.skipBlanks.rest.take length := by
    rw [aligned.skipBlanks, Text.slice]
    congr 1
    exact Nat.add_sub_cancel_left ..
  rw [characters]
  exact (Reading.ofText_lexeme read word).spelling

theorem Reads.marked (h : Reads lexer ts last) :
    ∃ spans, Marks lexer spans last ∧ spans.map Span.token = ts := by
  induction h with
  | none => exact ⟨[], .none, rfl⟩
  | more first word _ ih =>
    obtain ⟨spans, marks, rfl⟩ := ih
    exact ⟨_, .more first word marks, rfl⟩

/-- What is left of a text is split by the tokens that are read up to its end. -/
theorem Marks.splits (h : Marks lexer spans last) (hn : next last = .ok .finish after)
    (aligned : Aligned lexer) (placed : Placed lexer) :
    Splits lexer.source.toList lexer.position lexer.source.length spans := by
  induction h with
  | @none lexer =>
    have finish := placed.finish hn
    exact finish ▸ .blanks (next_gap aligned hn).1
  | @more lexer t after spans last first word others ih =>
    obtain ⟨gap, ahead⟩ := next_gap aligned first
    obtain ⟨solid, spelling⟩ := next_spelling aligned first word
    have source := next_source first
    have placed' := placed.next first
    have inside : after.position ≤ lexer.source.length := by
      rw [Placed, source] at placed'
      omega
    exact .cons gap ahead solid spelling inside (source ▸ ih hn (aligned.next first) placed')

/-- A text whose tokens can all be read is split by them: nothing but blanks is left out, and no
character belongs to two tokens. -/
theorem tokens_split (text : String) (ts : List Token) (after : Lexer)
    (accepted : tokens (.ofText text) = .ok ts after) :
    ∃ spans last, Marks (.ofText text) spans last ∧ next last = .ok .finish after ∧
      ts = spans.map Span.token ++ [.finish] ∧ Splits text.toList 0 text.length spans ∧
      after.tokenStart = text.length := by
  obtain ⟨us, last, reads, ⟨after', hn, ht⟩ | ⟨e, after', -, ht⟩⟩ := tokens_reads (.ofText text)
  · cases accepted.symm.trans ht
    obtain ⟨spans, marks, rfl⟩ := reads.marked
    have placed := placed_ofText text
    refine ⟨spans, last, marks, hn, rfl, marks.splits hn (aligned_ofText text) placed, ?_⟩
    rw [(reads.placed placed).finish hn, reads.source]
    rfl
  · cases accepted.symm.trans ht

/-- The second token is not written as it is displayed. -/
theorem tokens_split_otherSpelling : ∃ spans last after, Marks (.ofText " rate=<.5e1 ") spans last ∧
    next last = .ok .finish after ∧
    spans.map Span.token = [.identifier "rate", .lessEqual, .number ".5e1"] ∧
    Splits " rate=<.5e1 ".toList 0 12 spans ∧ after.tokenStart = 12 := by
  obtain ⟨spans, last, marks, next, same, splits, start⟩ := tokens_split " rate=<.5e1 "
    ([.identifier "rate", .lessEqual, .number ".5e1"] ++ [.finish])
    ⟨" rate=<.5e1 ", [], 12, 12⟩ (by cbv)
  exact ⟨spans, last, _, marks, next, (List.append_cancel_right same).symm, splits, start⟩

end Lexer
end Formula
