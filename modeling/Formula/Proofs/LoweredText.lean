import Formula.Proofs.CallText
import Formula.Proofs.ListedNames
import Formula.Proofs.LoweredNames
import Formula.Proofs.RespelledText
import Formula.Proofs.Spacing

namespace Formula

/-- A token with the name that it may be in lower case. -/
def Token.lowered : Token → Token
  | .identifier name => .identifier (Text.lower name)
  | t => t

/-- What is written for a word that is read as a token when names are put in lower case. -/
def Token.loweredWord (word : List Char) : Token → List Char
  | .identifier name => (Text.lower name).toList
  | _ => word

namespace Node

mutual

/-- A tree with the names of its variables and functions in lower case. -/
def lowered : Node → Node
  | ⟨k, word, operands⟩ =>
    ⟨k, if k = .identifier ∨ k = .call then Text.lower word else word, loweredAll operands⟩

def loweredAll : List Node → List Node
  | [] => []
  | node :: rest => lowered node :: loweredAll rest

end

theorem loweredAll_eq_map (ts : List Node) : loweredAll ts = ts.map lowered := by
  induction ts with
  | nil => rfl
  | cons t ts ih => rw [loweredAll, ih, List.map_cons]

/-- A tree that is the same up to the case of names, and has them all in lower case. -/
theorem Respelled.eq_lowered (h : Respelled t u)
    (small : ∀ called name, u.Mentions called name → Text.lower name = name) : u = t.lowered := by
  -- on the size of the first tree, whose operands are related as a list
  induction hn : t.size using Nat.strongRecOn generalizing t u with
  | _ n ih =>
    subst hn
    cases h with
    | @node word word' k ts us folded kept operands =>
      have names : word' = if k = .identifier ∨ k = .call then Text.lower word else word := by
        split
        case isTrue named =>
          rw [folded]
          rcases named with rfl | rfl
          · exact (small false word' (mentions_mk.mpr (.inl ⟨rfl, rfl⟩))).symm
          · exact (small true word' (mentions_mk.mpr (.inl ⟨rfl, rfl⟩))).symm
        case isFalse other =>
          rw [not_or] at other
          exact (kept other.1 other.2).symm
      have below : us = ts.map lowered := by
        refine List.ext_getElem (by simp [operands.length_eq]) fun i hi hi' => ?_
        have ht : i < ts.length := operands.length_eq ▸ hi
        rw [List.getElem_map]
        refine ih _ (size_lt (List.getElem_mem ht)) (operands.get ht hi) ?_ rfl
        intro called name inside
        exact small called name (mentions_mk.mpr (.inr ⟨_, List.getElem_mem hi, inside⟩))
      rw [lowered, loweredAll_eq_map, ← names, below]

end Node

namespace Text

/-- The characters of a text with each of its names in lower case, as far as tokens can be read. -/
def lowerNamesFrom (text : List Char) : List Char :=
  let blanks := text.takeWhile isBlank
  match _read : Reading.ofText (text.drop blanks.length) with
  | .token t length =>
    if t = .finish then text
    else
      let word := (text.drop blanks.length).take length
      blanks ++ (t.loweredWord word ++ lowerNamesFrom ((text.drop blanks.length).drop length))
  | .fault .. => text
termination_by text.length
decreasing_by
  obtain ⟨pos, solid⟩ := Reading.ofText_length_pos _read ‹_›
  have := List.length_pos_iff.mpr solid
  simp only [List.length_drop] at this ⊢
  omega

/-- A text with each of its names in lower case. -/
def lowerNames (text : String) : String :=
  .ofList (lowerNamesFrom text.toList)

theorem lowerNamesFrom_blank (blank : Blank text) : lowerNamesFrom text = text := by
  have all : text.takeWhile isBlank = text := List.takeWhile_eq_self_iff.mpr blank
  rw [lowerNamesFrom]
  split
  case h_1 read =>
    rw [all, List.drop_length] at read
    cases read
    rw [if_pos rfl]
  case h_2 => rfl

theorem lowerNamesFrom_word {gap word rest : List Char} (blank : Blank gap)
    (read : Reading.ofText (word ++ rest) = .token t word.length) (solid : t ≠ .finish) :
    lowerNamesFrom (gap ++ (word ++ rest)) =
      gap ++ (t.loweredWord word ++ lowerNamesFrom rest) := by
  have run : (gap ++ (word ++ rest)).takeWhile isBlank = gap :=
    Reading.takeWhile_run blank (Reading.isBlank_of_token read solid)
  rw [lowerNamesFrom]
  split
  case h_1 read' =>
    rw [run, List.drop_left, read] at read'
    cases read'
    rw [if_neg solid, run, List.drop_left, List.take_left, List.drop_left]
  case h_2 read' =>
    rw [run, List.drop_left, read] at read'
    cases read'

end Text

section

variable {text word : List Char} {ts : List Token} {t : Token}

theorem Token.lowered_of_symbolic (h : t.symbolic = true) (word : List Char) :
    t.lowered = t ∧ t.loweredWord word = word := by
  cases t with
  | identifier name => cases h
  | _ => exact ⟨rfl, rfl⟩

theorem Token.respelled_lowered (t : Token) : t.Respelled t.lowered := by
  cases t with
  | identifier name => exact .name (Text.lower_lower name).symm
  | _ => exact .kept

/-- A word is a token with its name in lower case too, if no capital I has a dot. -/
theorem Lexeme.lowered (h : Lexeme word t) (plain : 'İ' ∉ word) :
    Lexeme (t.loweredWord word) t.lowered := by
  cases h with
  | number number => exact .number number
  | name name => exact .name ((isName_lower_iff name).mpr plain)
  | symbol symbol =>
    obtain ⟨same, sameWord⟩ := Token.lowered_of_symbolic (symbolic_of_mem symbol) word
    rw [same, sameWord]
    exact .symbol symbol

/-- A capital I with a dot is a letter, and so stands in names only. -/
theorem Lexeme.dotted_name (h : Lexeme word t) (dotted : 'İ' ∈ word) :
    ∃ name, t = .identifier name ∧ word = name.toList := by
  cases h with
  | number number =>
    obtain ⟨whole, fraction, exponent, split, parts⟩ := number
    exact absurd (parts.chars 'İ' (split ▸ dotted)) (by decide)
  | name => exact ⟨_, rfl, rfl⟩
  | symbol symbol =>
    have none : ∀ symbol ∈ symbols, 'İ' ∉ symbol.1 := by decide
    exact absurd dotted (none _ symbol)

/-- A dot on its own is in no token. -/
theorem Lexeme.not_mem_dot (h : Lexeme word t) : '\u0307' ∉ word := by
  intro dotted
  rcases lexeme_char h dotted with number | name | symbol
  · exact absurd number (by decide)
  · exact absurd name (by decide)
  · have none : ∀ symbol ∈ symbols, '\u0307' ∉ symbol.1 := by decide
    exact none _ symbol dotted

/-- What is read as a token is one. -/
theorem Reading.lexeme_of_token {rest : List Char}
    (read : ofText (word ++ rest) = .token t word.length) (solid : t ≠ .finish) : Lexeme word t :=
  ((ofText_token_iff solid).mp read).1

namespace Layout

theorem spaced (h : Layout text ts) : Spaced text ts := by
  induction h with
  | finish blank => exact .finish blank
  | word blank read solid _ ih => exact .word blank (Reading.lexeme_of_token read solid) ih

/-- The names of a laid out text can be put in lower case, if no capital I has a dot. -/
theorem lowered (h : Layout text ts) (plain : 'İ' ∉ text) :
    Spaced (Text.lowerNamesFrom text) (ts.map Token.lowered) := by
  induction h with
  | finish blank =>
    rw [Text.lowerNamesFrom_blank blank]
    exact .finish blank
  | word blank read solid _ ih =>
    rw [Text.lowerNamesFrom_word blank read solid]
    simp only [List.mem_append, not_or] at plain
    have spells := Reading.lexeme_of_token read solid
    exact .word blank (spells.lowered plain.2.1) (ih plain.2.2)

theorem dot_mem (h : Layout text ts) (dotted : 'İ' ∈ text) :
    '\u0307' ∈ Text.lowerNamesFrom text := by
  induction h with
  | finish blank => exact absurd (blank _ dotted) (by decide)
  | word blank read solid _ ih =>
    rw [Text.lowerNamesFrom_word blank read solid]
    simp only [List.mem_append] at dotted ⊢
    rcases dotted with outside | inside | behind
    · exact absurd (blank _ outside) (by decide)
    · obtain ⟨name, rfl, rfl⟩ := (Reading.lexeme_of_token read solid).dotted_name inside
      exact .inr (.inl (Text.dot_mem_lower inside))
    · exact .inr (.inr (ih behind))

end Layout

namespace Spaced

/-- A text with a dot on its own is not made of tokens. -/
theorem not_mem_dot (h : Spaced text ts) : '\u0307' ∉ text := by
  induction h with
  | finish blank => exact fun dotted => absurd (blank _ dotted) (by decide)
  | word blank spells _ ih =>
    simp only [List.mem_append, not_or]
    exact ⟨fun dotted => absurd (blank _ dotted) (by decide), spells.not_mem_dot, ih⟩

theorem isName (h : Spaced text ts) (found : .identifier name ∈ ts) : IsName name := by
  induction h with
  | finish => cases found
  | word _ spells _ ih =>
    rcases List.mem_cons.mp found with rfl | found
    · cases spells with
      | name named => exact named
      | symbol symbol => cases symbolic_of_mem symbol
    · exact ih found

end Spaced

end

namespace Node

variable {ts : List Token} {t : Node}

theorem mentions_sentence (h : Sentence ts t) :
    t.Mentions called name ↔ Occurs called name ts .finish := by
  simp [h.mentions_iff, Phrase.Mentions]

/-- The names that a tree of a laid out text mentions are names. -/
theorem Mentions.isName (layout : Layout source ts) (sentence : Sentence ts t)
    (mentions : t.Mentions called name) : IsName name := by
  obtain ⟨i, found, -⟩ := (mentions_sentence sentence).mp mentions
  exact layout.spaced.isName (List.mem_of_getElem? found)

end Node

/-- The tokens of a sentence are a sentence with their names in lower case too, whose tree has its
names in lower case. -/
theorem Sentence.lowered {t : Node} (h : Sentence ts t) :
    Sentence (ts.map Token.lowered) t.lowered ∧ t.Respelled t.lowered := by
  have respelled : List.Forall₂ Token.Respelled ts (ts.map Token.lowered) :=
    List.forall₂_map_right_iff.mpr (List.forall₂_same.mpr fun t _ => t.respelled_lowered)
  obtain ⟨u, sentence, same⟩ := Derives.respell h .conditional respelled .kept
  have small : ∀ called name, u.Mentions called name → Text.lower name = name := by
    intro called name mentions
    obtain ⟨i, found, -⟩ := (Node.mentions_sentence sentence).mp mentions
    obtain ⟨t, -, lowered⟩ := List.mem_map.mp (List.mem_of_getElem? found)
    cases t with
    | identifier word =>
      cases lowered
      exact Text.lower_lower word
    | _ => cases lowered
  obtain rfl := same.eq_lowered small
  exact ⟨sentence, same⟩

/-- How a variable or the call of a function without arguments is written. -/
def nameText (called : Bool) (name : String) : String :=
  if called then callText name [] else name

namespace Builder

theorem parse_nameText (builder : Builder V F) (room : 0 < builder.limit) (called : Bool)
    (named : IsName name) : builder.parse (nameText called name) =
      .ok ⟨.leaf (nameKind called) name, builder.context⟩ := by
  cases called with
  | false =>
    have sentence : Sentence [.identifier name] (.leaf .identifier name) :=
      (Derives.identifier (by simp)).of_atom trivial
    exact parse_of_layout builder (.single (.name named)) sentence room
  | true =>
    have layout := (spells_callText named .nil).layout
    exact parse_of_layout builder layout (sentence_callTokens .nil) room

theorem parse_lowered {builder : Builder V F} (parsed : builder.parse source = .ok expression)
    (plain : 'İ' ∉ source.toList) :
    builder.parse (Text.lowerNames source) = .ok ⟨expression.root.lowered, builder.context⟩ ∧
      expression.root.Respelled expression.root.lowered := by
  obtain ⟨ts, layout, sentence, room⟩ := layout_of_parse parsed
  obtain ⟨lowered, same⟩ := sentence.lowered
  -- The words may meet others than before, and need no blanks in a sentence whatever they are.
  have written := (layout.lowered plain).layout lowered.meets
  rw [same.nesting_eq] at room
  refine ⟨parse_of_layout builder ?_ lowered room, same⟩
  rw [Text.lowerNames, String.toList_ofList]
  exact written

theorem not_parse_of_dot {builder : Builder V F} (dotted : '\u0307' ∈ source.toList) :
    ∃ e, builder.parse source = .error e := by
  cases parsed : builder.parse source with
  | error e => exact ⟨e, rfl⟩
  | ok expression =>
    obtain ⟨ts, layout, -⟩ := layout_of_parse parsed
    exact absurd dotted layout.spaced.not_mem_dot

/-- What holds of a name that an expression lists, as the name of a variable or of a function. It
stands for all its spellings. It can be written on its own, unless it has a dot that no name has,
which a capital I with a dot leaves behind. -/
structure Listed (builder : Builder V F) (expression : Expression V F) (called : Bool)
    (name : String) : Prop where
  spelled : ∃ word, expression.root.Mentions called word ∧ Text.lower word = name
  bound : ∀ word, Text.lower word = name → ∀ context : Context V F,
    context.getVariable? name = context.getVariable? word ∧
      context.getFunction? name = context.getFunction? word
  dotted : ∀ word, expression.root.Mentions called word → Text.lower word = name →
    ('\u0307' ∈ name.toList ↔ 'İ' ∈ word.toList)
  written : '\u0307' ∉ name.toList →
    builder.parse (nameText called name) = .ok ⟨.leaf (nameKind called) name, builder.context⟩
  unwritten : '\u0307' ∈ name.toList → ∀ text other, builder.parse text = .ok other →
    ¬ other.root.Mentions called name

theorem listed_of_mem {builder : Builder V F} (parsed : builder.parse source = .ok expression)
    (found : name ∈ expression.root.namesOf (nameKind called)) :
    builder.Listed expression called name := by
  obtain ⟨ts, layout, sentence, room⟩ := layout_of_parse parsed
  obtain ⟨word, mentions, folded⟩ := Node.mem_namesOf_iff.mp found
  refine ⟨⟨word, mentions, folded⟩, ?_, ?_, ?_, ?_⟩
  · intro word' folded' context
    have same : Text.lower name = Text.lower word' := by
      rw [← folded', Text.lower_lower]
    exact ⟨Context.getVariable?_folded same, Context.getFunction?_folded same⟩
  · intro word' mentions' folded'
    exact folded' ▸ dot_mem_lower_iff (mentions'.isName layout sentence)
  · intro plain
    have named := mentions.isName layout sentence
    rw [← folded, dot_mem_lower_iff named, ← isName_lower_iff named, folded] at plain
    exact parse_nameText builder (Nat.zero_lt_of_lt room) called plain
  · intro dotted text other parsed' mentions'
    obtain ⟨us, layout', sentence', -⟩ := layout_of_parse parsed'
    exact (mentions'.isName layout' sentence').not_mem_dot dotted

/-- The names of an expression can be written in lower case. Where no capital I has a dot, this
makes a text with the same tree up to the case of names, the same names and the same values and
errors, which spell an unbound name as the text does. The small letter of a capital I with a dot has
the dot behind it, and no text with such a dot is an expression. -/
theorem parse_eval_lowered (builder : Builder V F) (source : String) (expression : Expression V F)
    (parsed : builder.parse source = .ok expression) :
    ('İ' ∉ source.toList →
      ∃ expression', builder.parse (Text.lowerNames source) = .ok expression' ∧
        expression'.root = expression.root.lowered ∧
        expression'.variableNames = expression.variableNames ∧
        expression'.functionNames = expression.functionNames ∧
        ∀ (σ : Type) (host : Host V F σ) (context : Context V F) (s : σ),
          Agreeing (EvalError.Respelled context expression.root expression'.root)
            (Node.eval host context expression.root s)
            (Node.eval host context expression'.root s) ∧
          Agreeing (EvalError.Respelled context expression.root expression'.root)
            (Expression.eval host ⟨expression.root, context⟩ s)
            (Expression.eval host ⟨expression'.root, context⟩ s)) ∧
    ('İ' ∈ source.toList → ∃ e, builder.parse (Text.lowerNames source) = .error e) ∧
    (∀ name ∈ expression.variableNames, builder.Listed expression false name) ∧
    ∀ name ∈ expression.functionNames, builder.Listed expression true name := by
  have listed (called : Bool) : ∀ name ∈ expression.root.namesOf (nameKind called),
      builder.Listed expression called name := fun name => listed_of_mem parsed
  refine ⟨fun plain => ?_, fun dotted => ?_, listed false, listed true⟩
  · obtain ⟨parsed', same⟩ := parse_lowered parsed plain
    exact ⟨_, parsed', rfl, (same.namesOf_eq .identifier).symm, (same.namesOf_eq .call).symm,
      fun σ host context s =>
        ⟨same.eval_agreeing host context s, Expression.eval_agreeing same host context s⟩⟩
  · obtain ⟨ts, layout, -⟩ := layout_of_parse parsed
    apply not_parse_of_dot
    rw [Text.lowerNames, String.toList_ofList]
    exact layout.dot_mem dotted

set_option maxRecDepth 1024 in
/-- A text can be written in lower case, and so can what it lists on its own. -/
theorem parse_eval_lowered_call :
    (∃ expression : Expression String String,
      empty.parse (Text.lowerNames "F(Ä)") = .ok expression ∧ expression.root = smallCall) ∧
    (empty : Builder String String).parse "ä" =
      .ok ⟨.leaf .identifier "ä", empty.context⟩ := by
  have parsed : (empty : Builder String String).parse "F(Ä)" =
      .ok ⟨capitalCall, empty.context⟩ := by cbv
  obtain ⟨plain, -, listed, -⟩ := parse_eval_lowered _ _ _ parsed
  obtain ⟨expression, parsed', root, -⟩ := plain (by decide)
  have small : capitalCall.lowered = smallCall := by cbv
  have found : "ä" ∈ capitalCall.namesOf .identifier :=
    Node.mem_namesOf.mpr ⟨_, .under (List.mem_singleton_self _) .here, rfl, by cbv⟩
  exact ⟨⟨expression, parsed', root.trans small⟩, (listed "ä" found).written (by decide)⟩

set_option maxRecDepth 1024 in
/-- A capital I with a dot is a name, and so an expression, and what it is in lower case is none. -/
theorem not_parse_lowered_dotted :
    (∃ expression : Expression Empty Empty, empty.parse "İ" = .ok expression) ∧
    Text.lowerNames "İ" = "i\u0307" ∧
    ∃ e, (empty : Builder Empty Empty).parse (Text.lowerNames "İ") = .error e := by
  have lowered : Text.lowerNames "İ" = "i\u0307" := by cbv
  have parsed : (empty : Builder Empty Empty).parse "İ" =
      .ok ⟨.leaf .identifier "İ", empty.context⟩ := by cbv
  have failed : ∃ e, (empty : Builder Empty Empty).parse "i\u0307" = .error e :=
    ⟨⟨"i\u0307", .lexical (.unexpected '\u0307'), 1⟩, by cbv⟩
  exact ⟨⟨_, parsed⟩, lowered, lowered ▸ failed⟩

end Builder
end Formula
