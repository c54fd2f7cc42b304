import Formula.Proofs.Spacing
import Formula.Proofs.TokenSpans

namespace Formula

/-- What cannot stand directly behind a number: a point, and what could belong to a name. -/
def RunsOn (c : Char) : Prop :=
  c = '.' ∨ Reading.continuesName c = true

variable {c : Char} {rest word blanks : List Char}

namespace RunsOn

theorem not_blank (h : RunsOn c) : Text.isBlank c = false := by
  rw [← Bool.not_eq_true]
  intro blank
  rcases h with rfl | continues
  · cases blank
  · have name : IsName (.ofList ['_', c]) := ⟨'_', [c], by simp, rfl, by simpa using continues⟩
    exact not_mem_of_isBlank blank (.name name) (by simp)

theorem not_symbol (h : RunsOn c) : c ∉ Reading.symbolStarts := by
  rcases h with rfl | continues
  · simp [Reading.symbolStarts]
  · intro starts
    simp [Reading.continuesName_of_symbolStarts starts] at continues

/-- Only a number or a name can be read there. -/
theorem not_symbolic (h : RunsOn c) (read : Reading.ofText (c :: rest) = .token t length) :
    t.symbolic = false := by
  rw [Reading.ofText_word h.not_symbol] at read
  split at read
  · obtain ⟨numeral, rfl, -⟩ := Reading.number_start read
    rfl
  · split at read
    · cases read
      rfl
    · cases read

end RunsOn

theorem Lexeme.unique (h : Lexeme word t) (h' : Lexeme word t') : t = t' := by
  have same := (Reading.ofText_end h).symm.trans (Reading.ofText_end h')
  cases same
  rfl

namespace Token

variable {t : Token}

theorem Divides.symbolic (h : t.Divides) : t.symbolic = true := by
  cases h with
  | opening b => cases b <;> rfl
  | closing b => exact b.symbolic_closing
  | comma => rfl

/-- Behind a number stands an operator or a bracket. -/
theorem Neighbours.behind_number (h : Neighbours (Token.number spelling) t) :
    t.symbolic = true := by
  cases h with
  | number symbolic => exact symbolic
  | divided divides => cases divides.symbolic
  | ahead symbolic => cases symbolic

end Token

namespace Lexer

variable {lexer mid after last : Lexer} {ts : List Token} {spans : List Span} {span : Span}

/-- Behind a number of a sentence no character is found that could not follow it. -/
theorem Reads.not_runsOn (h : Reads after ts last) (hn : next last = .ok .finish behind)
    (chain : (.number spelling :: ts).IsChain Token.Neighbours) :
    ∀ c ∈ after.rest.head?, ¬ RunsOn c := by
  intro c hc runs
  obtain ⟨rest, hrest⟩ := List.head?_eq_some_iff.mp hc
  have ahead : after.skipBlanks.rest = c :: rest := by
    have unread : after.rest = [] ++ c :: rest := hrest
    rw [skipBlanks_run unread (by simp) (by simpa using runs.not_blank)]
  cases h with
  | none =>
    obtain ⟨length, read, -⟩ := next_ok hn
    have none := Reading.ofText_finish read
    simp [ahead] at none
  | more first =>
    obtain ⟨length, read, -⟩ := next_ok first
    rw [ahead] at read
    have symbolic := (List.isChain_cons_cons.mp chain).1.behind_number
    simp [runs.not_symbolic read] at symbolic

theorem Reads.aligned (h : Reads lexer ts last) (aligned : Aligned lexer) : Aligned last := by
  induction h with
  | none => exact aligned
  | more first _ _ ih => exact ih (aligned.next first)

/-- Where a token that is marked was read. -/
theorem Marks.found (h : Marks lexer spans last) (mem : span ∈ spans) :
    ∃ ts mid after, Reads lexer ts mid ∧ next mid = .ok span.token after ∧
      after.position = span.stop := by
  induction h with
  | none => cases mem
  | @more lexer t after spans last first word others ih =>
    rcases List.mem_cons.mp mem with rfl | mem
    · exact ⟨[], lexer, after, .none, first, rfl⟩
    · obtain ⟨ts, mid, after', reads, found⟩ := ih mem
      exact ⟨t :: ts, mid, after', .more first word reads, found⟩

/-- A number that is read in an accepted text. -/
theorem Reads.number_ends (h : Reads lexer ts last) (hn : next last = .ok .finish behind)
    (sentence : Sentence ts t) (ahead : Reads lexer us mid)
    (found : next mid = .ok (.number spelling) after) : ∀ c ∈ after.rest.head?, ¬ RunsOn c := by
  obtain ⟨vs, rfl, others⟩ := h.start (ended_of_finish hn) (ahead.snoc found (by simp))
  have chain := sentence.neighbours
  rw [List.append_assoc, List.singleton_append] at chain
  exact others.not_runsOn hn chain.right_of_append

/-- A lexer that reads a token in front of the longest number reads that number. -/
theorem next_number (hrest : lexer.rest = blanks ++ (word ++ rest)) (blank : Blank blanks)
    (longest : Longest (word ++ rest) word (.number spelling))
    (found : next lexer = .ok t after) : t = .number spelling ∧ after.rest = rest := by
  have solid : word ≠ [] := Reading.lexeme_ne_nil longest.lexeme
  have ends : ∀ d ∈ (word ++ rest).head?, Text.isBlank d = false := by
    refine Reading.head?_append (fun d hd => ?_) fun none => absurd none solid
    rw [← Bool.not_eq_true]
    exact fun hb => not_mem_of_isBlank hb longest.lexeme (List.mem_of_mem_head? hd)
  have skipped := skipBlanks_run hrest blank ends
  obtain ⟨length, read, rfl⟩ := next_ok found
  rw [skipped] at read
  obtain ⟨word', rfl, longest', -⟩ := Reading.longest_of_token read (by simp [solid])
  obtain rfl := longest.unique longest'
  exact ⟨longest'.lexeme.unique longest.lexeme, by simp [skip, skipped]⟩

end Lexer

namespace Builder

/-- Malformed numbers are never read in part. In an accepted text no number has a character directly
behind it that could not follow it, and a text is rejected where such a character stands directly
behind a number that could be read. -/
theorem parse_number_ends (builder : Builder V F) (text : String) :
    (∀ expression, builder.parse text = .ok expression →
      ∀ spans last, Lexer.Marks (.ofText text) spans last →
        ∀ span ∈ spans, ∀ spelling, span.token = .number spelling →
          ∀ c, text.toList[span.stop]? = some c → ¬ RunsOn c) ∧
    ∀ ts lexer blanks word spelling c rest, Lexer.Reads (.ofText text) ts lexer →
      lexer.rest = blanks ++ (word ++ c :: rest) → Blank blanks →
      Longest (word ++ c :: rest) word (.number spelling) → RunsOn c →
        ∃ e, builder.parse text = .error e := by
  constructor
  · intro expression parsed spans last marks span mem spelling number c hc
    obtain ⟨us, stop, behind, reads, hn, sentence, -⟩ := sentence_of_parse parsed
    obtain ⟨ts, mid, after, ahead, found, position⟩ := marks.found mem
    have aligned : after.Aligned := (ahead.aligned (Lexer.aligned_ofText text)).next found
    have source : after.source = text := (Lexer.next_source found).trans ahead.source
    rw [number] at found
    refine reads.number_ends hn sentence ahead found c ?_
    rw [aligned, source, position, List.head?_drop]
    exact hc
  · intro ts lexer blanks word spelling c rest ahead hrest blank longest runs
    cases parsed : builder.parse text with
    | error e => exact ⟨e, rfl⟩
    | ok expression =>
      obtain ⟨us, last, behind, reads, hn, sentence, -⟩ := sentence_of_parse parsed
      obtain ⟨vs, rfl, others⟩ := reads.start (Lexer.ended_of_finish hn) ahead
      cases others with
      | none => cases (Lexer.next_number hrest blank longest hn).1
      | more found word others =>
        obtain ⟨rfl, ends⟩ := Lexer.next_number hrest blank longest found
        exact absurd runs (reads.number_ends hn sentence ahead found c (by simp [ends]))

/-- The first text is accepted, with a product behind its number. In the second one two numbers
could be read, but the point of the second follows the first. -/
theorem parse_number_ends_secondPoint :
    (∀ c, "2.5*x".toList[3]? = some c → ¬ RunsOn c) ∧
      ∃ e, (empty : Builder Empty Empty).parse "-12e5.15" = .error e := by
  constructor
  · have first : Lexer.next (.ofText "2.5*x") =
        .ok (.number "2.5") ⟨"2.5*x", "*x".toList, 3, 0⟩ := by cbv
    have parsed : (empty : Builder Empty Empty).parse "2.5*x" = .ok ⟨.operator (.operator .multiply)
        [.leaf .number "2.5", .leaf .identifier "x"], empty.context⟩ := by cbv
    exact (parse_number_ends empty "2.5*x").1 _ parsed _ _ (.more first (by simp) .none) _
      (List.mem_cons_self ..) _ rfl
  · have minus : Lexer.next (.ofText "-12e5.15") =
        .ok .minus ⟨"-12e5.15", "12e5.15".toList, 1, 0⟩ := by cbv
    have read : Reading.ofText ("12e5".toList ++ ".15".toList) = .token (.number "12e5") 4 := by cbv
    obtain ⟨word, length, longest, -⟩ := Reading.longest_of_token read (by simp)
    obtain rfl : word = "12e5".toList := by
      rw [List.prefix_iff_eq_take.mp longest.starts, length]
      rfl
    exact (parse_number_ends empty "-12e5.15").2 _ _ [] _ _ '.' _
      (.more minus (by simp) .none) rfl blank_nil longest (.inl rfl)

end Builder
end Formula
