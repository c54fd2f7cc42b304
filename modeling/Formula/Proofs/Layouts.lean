import Formula.Proofs.LongestLexeme
import Formula.Proofs.NestingLimit

namespace Formula

/-- Characters that stand between words. -/
def Blank (text : List Char) : Prop :=
  ∀ c ∈ text, Text.isBlank c = true

theorem blank_nil : Blank [] := by
  simp [Blank]

/-- A text is made of words, each of which is read as a token, and blanks. -/
inductive Layout : List Char → List Token → Prop where
  | finish (blank : Blank blanks) : Layout blanks []
  | word (blank : Blank blanks) (read : Reading.ofText (word ++ rest) = .token t word.length)
      (solid : t ≠ .finish) (others : Layout rest ts) :
      Layout (blanks ++ (word ++ rest)) (t :: ts)

/-- A character that is a word of its own, or none and in none. -/
def Apart (c : Char) : Prop :=
  ∀ word t, Lexeme word t → c ∈ word → word = [c]

/-- A symbol that is listed in one spelling is spelled so. -/
theorem lexeme_spelled (only : ∀ symbol ∈ symbols, symbol.2 = t → symbol.1 = word)
    (number : ∀ text, t ≠ .number text) (name : ∀ name, t ≠ .identifier name)
    (h : Lexeme word' t) : word' = word := by
  cases h with
  | number => exact absurd rfl (number _)
  | name => exact absurd rfl (name _)
  | symbol h => exact only _ h rfl

namespace Bracket

def openingChar : Bracket → Char
  | round => '('
  | square => '['
  | curly => '\x7b'

def closingChar : Bracket → Char
  | round => ')'
  | square => ']'
  | curly => '\x7d'

theorem lexeme_opening (b : Bracket) : Lexeme [b.openingChar] b.opening := by
  apply Lexeme.symbol
  cases b <;> decide

theorem lexeme_closing (b : Bracket) : Lexeme [b.closingChar] b.closing := by
  apply Lexeme.symbol
  cases b <;> decide

theorem opening_spelled (b : Bracket) (h : Lexeme word b.opening) : word = [b.openingChar] := by
  cases b <;> exact lexeme_spelled (by decide) (by simp [opening]) (by simp [opening]) h

theorem closing_spelled (b : Bracket) (h : Lexeme word b.closing) : word = [b.closingChar] := by
  cases b <;> exact lexeme_spelled (by decide) (by simp [closing]) (by simp [closing]) h

end Bracket

theorem lexeme_comma : Lexeme [','] .comma :=
  .symbol (by decide)

/-! Which characters stand apart. -/

theorem digits_chars (h : Digits ds) : ∀ c ∈ ds, c.isDigit = true ∨ c ∈ ['.', 'e', 'E', '+', '-'] :=
  fun c hc => .inl (h.2 c hc)

theorem NumberParts.chars (h : NumberParts whole fraction exponent) :
    ∀ c ∈ whole ++ (fraction ++ exponent), c.isDigit = true ∨ c ∈ ['.', 'e', 'E', '+', '-'] := by
  have hfraction : ∀ c ∈ fraction, c.isDigit = true ∨ c ∈ ['.', 'e', 'E', '+', '-'] := by
    obtain rfl | ⟨ds, rfl, hds⟩ := h.point
    · simp
    · exact List.forall_mem_cons.mpr ⟨by simp, digits_chars hds⟩
  have hexponent : ∀ c ∈ exponent, c.isDigit = true ∨ c ∈ ['.', 'e', 'E', '+', '-'] := by
    obtain rfl | ⟨m, sign, ds, rfl, hm, hsign, hds⟩ := h.mark
    · simp
    · refine List.forall_mem_cons.mpr ⟨?_, List.forall_mem_append.mpr ⟨?_, digits_chars hds⟩⟩
      · rcases hm with rfl | rfl <;> simp
      · rcases hsign with rfl | rfl | rfl <;> simp
  simp only [List.forall_mem_append]
  exact ⟨fun c hc => .inl (h.digits c hc), hfraction, hexponent⟩

/-- The characters of a lexeme are those of a number or a name, if it is no symbol. -/
theorem lexeme_char (h : Lexeme word t) (hc : c ∈ word) :
    (c.isDigit = true ∨ c ∈ ['.', 'e', 'E', '+', '-']) ∨ Reading.continuesName c = true ∨
      (word, t) ∈ symbols := by
  cases h with
  | number h =>
    obtain ⟨whole, fraction, exponent, htext, parts⟩ := h
    exact .inl (parts.chars c (htext ▸ hc))
  | name h =>
    obtain ⟨d, ds, htext, hd, hds⟩ := h
    have hall : ∀ e ∈ d :: ds, Reading.continuesName e = true :=
      List.forall_mem_cons.mpr ⟨Reading.continuesName_of_starts hd, hds⟩
    exact .inr (.inl (hall c (htext ▸ hc)))
  | symbol h => exact .inr (.inr h)

theorem apart_of_symbol (digit : c.isDigit = false) (mark : c ∉ ['.', 'e', 'E', '+', '-'])
    (name : Reading.continuesName c = false)
    (symbol : ∀ symbol ∈ symbols, c ∈ symbol.1 → symbol.1 = [c]) : Apart c := by
  intro word t h hc
  rcases lexeme_char h hc with (hdigit | hmark) | hname | hsymbol
  · simp [digit] at hdigit
  · exact absurd hmark mark
  · simp [name] at hname
  · exact symbol _ hsymbol hc

theorem apart_opening (b : Bracket) : Apart b.openingChar := by
  cases b <;> exact apart_of_symbol (by decide) (by decide) (by decide) (by decide)

theorem apart_closing (b : Bracket) : Apart b.closingChar := by
  cases b <;> exact apart_of_symbol (by decide) (by decide) (by decide) (by decide)

theorem apart_comma : Apart ',' :=
  apart_of_symbol (by decide) (by decide) (by decide) (by decide)

/-- What holds of every blank in the table holds of every blank. -/
theorem Text.forall_blank {p : Char → Prop}
    (h : ∀ range ∈ blanks, ∀ n < range.2 + 1 - range.1, p (.ofNat (range.1 + n)))
    (hc : isBlank c = true) : p c := by
  obtain ⟨range, hm, hlo, hhi⟩ := Ranges.mem_of_holds hc
  have hp := h range hm (c.toNat - range.1) (by omega)
  rwa [Nat.add_sub_cancel' hlo, Char.ofNat_toNat] at hp

/-- There is no blank in a lexeme. -/
theorem not_mem_of_isBlank (h : Text.isBlank c = true) (hl : Lexeme word t) : c ∉ word := by
  have hblank : c.isDigit = false ∧ c ∉ ['.', 'e', 'E', '+', '-'] ∧
      Reading.continuesName c = false ∧ ∀ symbol ∈ symbols, c ∉ symbol.1 := by
    revert h
    apply Text.forall_blank
    decide +kernel
  obtain ⟨digit, mark, name, symbol⟩ := hblank
  intro hc
  rcases lexeme_char hl hc with (hdigit | hmark) | hname | hsymbol
  · simp [digit] at hdigit
  · exact mark hmark
  · simp [name] at hname
  · exact symbol _ hsymbol hc

theorem apart_of_isBlank (h : Text.isBlank c = true) : Apart c :=
  fun _ _ hl hc => absurd hc (not_mem_of_isBlank h hl)

/-- What stands apart starts no number. -/
theorem Apart.not_number (h : Apart d) : ¬ (d = '.' ∨ d.isDigit = true) := by
  intro hd
  have hnumber : IsNumber (.ofList [d, '0']) := by
    rcases hd with rfl | hd
    · exact ⟨[], ['.', '0'], [], by simp, by simp, .inr ⟨['0'], rfl, by simp, by simp⟩, .inl rfl,
        by simp⟩
    · exact ⟨[d, '0'], [], [], by simp, by simpa using hd, .inl rfl, .inl rfl, by simp⟩
  have hone := h _ _ (.number hnumber) (by simp)
  simp at hone

theorem Apart.not_cutOff (h : Apart d) : ¬ CutOff word d := by
  intro hcut
  cases hcut with
  | point digits => exact h.not_number (.inl rfl)
  | mark parts hword hd =>
    have hname : IsName "eE" := ⟨'e', ['E'], rfl, by decide, by simp; decide⟩
    cases h _ _ (.name hname) (by rcases hd with rfl | rfl <;> simp)

namespace Reading

variable {word rest rest' text : List Char}

/-- A word is read in front of a character that stands apart. -/
theorem ofText_apart (h : Lexeme word t) (hd : Apart d) (rest : List Char) :
    ofText (word ++ d :: rest) = .token t word.length := by
  apply ofText_of_longest h
  · intro c hc t' h'
    cases hc
    have hone := hd _ _ h' (by simp)
    exact lexeme_ne_nil h (by simpa using hone)
  · intro c hc
    cases hc
    exact hd.not_cutOff

/-- A word is read at the end of a text. -/
theorem ofText_end (h : Lexeme word t) : ofText word = .token t word.length := by
  have hread : ofText (word ++ []) = .token t word.length := ofText_of_longest h (by simp) (by simp)
  rwa [List.append_nil] at hread

/-- How a word is read depends only on the character behind it. -/
theorem ofText_same_head (h : ofText (word ++ rest) = .token t word.length) (ht : t ≠ .finish)
    (same : rest.head? = rest'.head?) : ofText (word ++ rest') = .token t word.length := by
  rw [ofText_token_iff ht] at h ⊢
  rwa [← same]

/-- A word is read as before in front of the same character or one that stands apart. -/
theorem ofText_behind (read : ofText (word ++ rest) = .token t word.length) (solid : t ≠ .finish)
    (ahead : rest'.head? = rest.head? ∨ ∃ c ∈ rest'.head?, Apart c) :
    ofText (word ++ rest') = .token t word.length := by
  rcases ahead with same | ⟨c, hc, hapart⟩
  · exact ofText_same_head read solid same.symm
  · obtain ⟨after, rfl⟩ := List.head?_eq_some_iff.mp hc
    have hword := ((ofText_token_iff solid).mp read).1
    exact ofText_apart hword hapart after

/-- A word that stands apart is read whatever comes behind it. -/
theorem ofText_single (h : Lexeme [d] t) (hd : Apart d) (rest : List Char) :
    ofText (d :: rest) = .token t 1 := by
  have hread : ofText ([d] ++ rest) = .token t [d].length := by
    apply ofText_of_longest h
    · intro c hc t' h'
      cases hd _ _ h' (by simp)
    · intro c hc hcut
      obtain ⟨e, es, hword, he⟩ := hcut.head
      cases hword
      exact hd.not_number he
  exact hread

/-- A word that is read starts with no blank. -/
theorem isBlank_of_token (h : ofText text = .token t length) (ht : t ≠ .finish) :
    ∀ c ∈ text.head?, Text.isBlank c = false := by
  intro c hc
  obtain ⟨rest, rfl⟩ := List.head?_eq_some_iff.mp hc
  have hpos := (ofText_length_pos h ht).1
  rw [← Bool.not_eq_true]
  intro hb
  apply not_mem_of_isBlank hb (ofText_lexeme h ht)
  rw [List.take_cons hpos]
  exact List.mem_cons_self ..

end Reading

namespace Lexer

variable {lexer : Lexer}

/-- A lexer reads the tokens of a layout, and then the end. -/
theorem reads_of_layout (h : Layout text ts) (hl : lexer.rest = text) :
    ∃ last after, Reads lexer ts last ∧ next last = .ok .finish after := by
  induction h generalizing lexer with
  | @finish blanks blank =>
    have hrest : lexer.rest = blanks ++ [] := by rw [hl, List.append_nil]
    have hskip := skipBlanks_run hrest blank (by simp)
    exact ⟨lexer, _, .none, by rw [next, hskip]; rfl⟩
  | @word blanks word rest t ts blank read solid others ih =>
    have hskip := skipBlanks_run hl blank (Reading.isBlank_of_token read solid)
    obtain ⟨after, hnext, hrest⟩ : ∃ after, next lexer = .ok t after ∧ after.rest = rest :=
      ⟨lexer.skipBlanks.skip word.length, by simp only [next, hskip, read],
        by simp only [hskip, skip, List.drop_left]⟩
    obtain ⟨last, after, hr, hn⟩ := ih hrest
    exact ⟨last, after, .more hnext solid hr, hn⟩

theorem rest_eq (lexer : Lexer) :
    ∃ blanks, Blank blanks ∧ lexer.rest = blanks ++ lexer.skipBlanks.rest :=
  ⟨lexer.rest.takeWhile Text.isBlank, fun _ => List.mem_takeWhile_imp,
    (List.prefix_iff_eq_append.mp (List.takeWhile_prefix _)).symm⟩

/-- The tokens that a lexer reads up to the end are laid out in its text. -/
theorem layout_of_reads (h : Reads lexer ts last) (hn : next last = .ok .finish after) :
    Layout lexer.rest ts := by
  induction h with
  | @none lexer =>
    obtain ⟨blanks, blank, hrest⟩ := lexer.rest_eq
    obtain ⟨length, hread, -⟩ := next_ok hn
    rw [hrest, Reading.ofText_finish hread, List.append_nil]
    exact .finish blank
  | @more lexer t mid ts last first word _ ih =>
    obtain ⟨blanks, blank, hrest⟩ := lexer.rest_eq
    obtain ⟨length, hread, rfl⟩ := next_ok first
    have hsplit := List.take_append_drop length lexer.skipBlanks.rest
    have hlength := List.length_take_of_le (Reading.ofText_length_le hread)
    rw [hrest, ← hsplit]
    refine .word blank ?_ word (ih hn)
    rw [hsplit, hlength, hread]

end Lexer

namespace Layout

variable {word text rest : List Char} {ts us : List Token}

/-- A word makes a text of its own. -/
theorem single (h : Lexeme word t) : Layout word [t] := by
  have hread : Reading.ofText (word ++ []) = .token t word.length := by
    rw [List.append_nil]
    exact Reading.ofText_end h
  have hword := Layout.word blank_nil hread (Reading.lexeme_ne_finish h) (.finish blank_nil)
  rwa [List.append_nil] at hword

/-- A text goes on behind a character that stands apart. -/
theorem append (h : Layout text ts) (hl : Lexeme [c] t) (hc : Apart c) (others : Layout rest us) :
    Layout (text ++ c :: rest) (ts ++ t :: us) := by
  induction h with
  | finish blank =>
    have hread : Reading.ofText ([c] ++ rest) = .token t [c].length :=
      Reading.ofText_single hl hc rest
    exact .word blank hread (Reading.lexeme_ne_finish hl) others
  | @word blanks word rest' t' ts blank read solid _ ih =>
    have ahead : (rest' ++ c :: rest).head? = rest'.head? ∨
        ∃ d ∈ (rest' ++ c :: rest).head?, Apart d := by
      cases rest' with
      | nil => exact .inr ⟨c, rfl, hc⟩
      | cons d rest' => exact .inl rfl
    have hread := Reading.ofText_behind read solid ahead
    simpa using Layout.word blank hread solid ih

/-- The tokens of a laid out text are those of its words. -/
theorem tokens {text : String} (h : Layout text.toList ts) :
    ∃ after, Lexer.tokens (.ofText text) = .ok (ts ++ [.finish]) after := by
  have hl : (Lexer.ofText text).rest = text.toList := rfl
  obtain ⟨last, after, hr, hn⟩ := Lexer.reads_of_layout h hl
  exact ⟨after, Lexer.tokens_of_reads hr hn⟩

theorem unique (h : Layout text ts) (h' : Layout text us) : ts = us := by
  have hl : (Lexer.ofText (.ofList text)).rest = text := String.toList_ofList
  obtain ⟨last, after, hr, hn⟩ := Lexer.reads_of_layout h hl
  obtain ⟨last', after', hr', hn'⟩ := Lexer.reads_of_layout h' hl
  exact (hr.unique (Lexer.ended_of_finish hn) hr' (Lexer.ended_of_finish hn')).1

end Layout

namespace Builder

/-- A text laid out as a sentence is parsed where the limit leaves room for its tree. -/
theorem parse_of_layout (builder : Builder V F) {text : String} (h : Layout text.toList ts)
    (hs : Sentence ts t) (room : t.nesting < builder.limit) :
    builder.parse text = .ok ⟨t, builder.context⟩ := by
  obtain ⟨after, tokens⟩ := h.tokens
  exact parse_ok_iff_tokens.mpr ⟨ts, after, tokens, hs, room, rfl⟩

/-- What is parsed is laid out as a sentence, and the limit leaves room for its tree. -/
theorem layout_of_parse {builder : Builder V F} (h : builder.parse text = .ok expression) :
    ∃ ts, Layout text.toList ts ∧ Sentence ts expression.root ∧
      expression.root.nesting < builder.limit := by
  obtain ⟨ts, after, tokens, hs, room, -⟩ := parse_ok_iff_tokens.mp h
  obtain ⟨last, hr, hn⟩ := Lexer.reads_of_tokens tokens
  exact ⟨ts, Lexer.layout_of_reads hr hn, hs, room⟩

end Builder
end Formula
