import Formula.Proofs.Layouts

namespace Formula

/-- Tokens as they are displayed, each with what is written behind it. -/
def displayed (pieces : List (Token × List Char)) : List Char :=
  pieces.flatMap fun piece => piece.1.text.toList ++ piece.2

/-- Nothing but blanks is written behind the tokens, and only the last can do without. -/
structure Spread (pieces : List (Token × List Char)) : Prop where
  blank : ∀ piece ∈ pieces, Blank piece.2
  apart : ∀ piece ∈ pieces.dropLast, piece.2 ≠ []

/-- A token that can be read is read from what it is displayed as. -/
theorem Lexeme.displayed (h : Lexeme word t) : Lexeme t.text.toList t := by
  have listed : ∀ symbol ∈ symbols, (symbol.2.text.toList, symbol.2) ∈ symbols := by decide
  cases h with
  | number h => exact .number h
  | name h => exact .name h
  | symbol h => exact .symbol (listed _ h)

namespace Spread

variable {piece : Token × List Char} {pieces : List (Token × List Char)}

theorem tail (h : Spread (piece :: pieces)) : Spread pieces where
  blank other mem := h.blank other (List.mem_cons_of_mem _ mem)
  apart other mem := by
    refine h.apart other ?_
    rw [List.dropLast_cons_of_ne_nil (by rintro rfl; cases mem)]
    exact List.mem_cons_of_mem _ mem

theorem last_of_nil (h : Spread (piece :: pieces)) (none : piece.2 = []) : pieces = [] := by
  by_contra more
  refine h.apart piece ?_ none
  rw [List.dropLast_cons_of_ne_nil more]
  exact List.mem_cons_self ..

/-- A displayed token is read in front of the blanks behind it, or at the end of the text. -/
theorem read (h : Spread (piece :: pieces)) (lexeme : Lexeme piece.1.text.toList piece.1) :
    Reading.ofText (piece.1.text.toList ++ (piece.2 ++ displayed pieces)) =
      .token piece.1 piece.1.text.toList.length := by
  have blank := h.blank piece (List.mem_cons_self ..)
  cases hgap : piece.2 with
  | nil =>
    have last := h.last_of_nil hgap
    simpa [last, displayed] using Reading.ofText_end lexeme
  | cons c gap =>
    have apart : Apart c := apart_of_isBlank (blank c (by simp [hgap]))
    exact Reading.ofText_apart lexeme apart _

theorem layout (h : Spread pieces)
    (lexemes : ∀ piece ∈ pieces, Lexeme piece.1.text.toList piece.1) (lead : Blank blanks) :
    Layout (blanks ++ displayed pieces) (pieces.map Prod.fst) := by
  induction pieces generalizing blanks with
  | nil =>
    have none : displayed [] = [] := rfl
    rw [none, List.append_nil]
    exact .finish lead
  | cons piece pieces ih =>
    obtain ⟨first, others⟩ := List.forall_mem_cons.mp lexemes
    have rest := ih h.tail others (h.blank piece (List.mem_cons_self ..))
    have split : displayed (piece :: pieces) =
        piece.1.text.toList ++ (piece.2 ++ displayed pieces) := by simp [displayed]
    rw [split]
    exact .word lead (h.read first) (Reading.lexeme_ne_finish first) rest

end Spread

namespace Lexer

theorem Reads.lexeme (h : Reads lexer ts last) : ∀ t ∈ ts, ∃ word, Lexeme word t := by
  induction h with
  | none => simp
  | more first word _ ih =>
    obtain ⟨length, read, -⟩ := next_ok first
    exact List.forall_mem_cons.mpr ⟨⟨_, Reading.ofText_lexeme read word⟩, ih⟩

/-- The tokens of a text are those of any text that displays them with blanks between them. -/
theorem tokens_displayed (text : String) (ts : List Token) (after : Lexer)
    (read : tokens (.ofText text) = .ok ts after) (pieces : List (Token × List Char))
    (each : pieces.map Prod.fst = ts.filter (· ≠ .finish)) (spread : Spread pieces)
    (blanks : List Char) (lead : Blank blanks) :
    ∃ after', tokens (.ofText (.ofList (blanks ++ displayed pieces))) = .ok ts after' := by
  obtain ⟨us, last, reads, ⟨after', -, ht⟩ | ⟨e, after', -, ht⟩⟩ := tokens_reads (.ofText text)
  · cases read.symm.trans ht
    have solid : us.filter (· ≠ .finish) = us := by
      refine List.filter_eq_self.mpr fun t mem => ?_
      obtain ⟨word, lexeme⟩ := reads.lexeme t mem
      simpa using Reading.lexeme_ne_finish lexeme
    rw [List.filter_append, solid] at each
    obtain rfl : pieces.map Prod.fst = us := by simpa using each
    have lexemes : ∀ piece ∈ pieces, Lexeme piece.1.text.toList piece.1 := by
      intro piece mem
      obtain ⟨word, lexeme⟩ := reads.lexeme piece.1 (List.mem_map_of_mem mem)
      exact lexeme.displayed
    refine Layout.tokens ?_
    rw [String.toList_ofList]
    exact spread.layout lexemes lead
  · cases read.symm.trans ht

/-- Without the blank between them the second and the third token would be one. -/
theorem tokens_displayed_apart :
    (∃ after, tokens (.ofText "1<\u3000>2=<x") =
      .ok [.number "1", .less, .greater, .number "2", .lessEqual, .identifier "x", .finish]
        after) ∧
    ∃ after, tokens (.ofText "\n1 < \t>\u30002 <= x") =
      .ok [.number "1", .less, .greater, .number "2", .lessEqual, .identifier "x", .finish]
        after := by
  have read : tokens (.ofText "1<\u3000>2=<x") =
      .ok [.number "1", .less, .greater, .number "2", .lessEqual, .identifier "x", .finish]
        ⟨"1<\u3000>2=<x", [], 8, 8⟩ := by cbv
  refine ⟨⟨_, read⟩, tokens_displayed _ _ _ read
    [(.number "1", [' ']), (.less, [' ', '\t']), (.greater, ['\u3000']), (.number "2", [' ']),
      (.lessEqual, [' ']), (.identifier "x", [])] (by decide) ⟨?_, by simp⟩ ['\n'] ?_⟩
  · simp [Blank]
    decide
  · simp [Blank]
    decide

end Lexer
end Formula
