import Formula.Proofs.LexicalGrammar

namespace Formula
namespace Reading

variable {text rest word whole fraction exponent : List Char}

theorem lexeme_of_parts (parts : NumberParts whole fraction exponent) :
    Lexeme (whole ++ (fraction ++ exponent))
      (.number (.ofList (whole ++ (fraction ++ exponent)))) := by
  have hnumber : IsNumber (.ofList (whole ++ (fraction ++ exponent))) :=
    ⟨whole, fraction, exponent, String.toList_ofList, parts⟩
  simpa using Lexeme.number hnumber

theorem lexeme_of_number (hc : c = '.' ∨ c.isDigit) (h : number (c :: rest) = .token t length) :
    Lexeme ((c :: rest).take length) t := by
  obtain ⟨whole, fraction, exponent, parts, rfl⟩ := parts_of_number hc h
  obtain ⟨numeral, ht, hl, hp⟩ := number_start h
  have hnumeral : whole ++ (fraction ++ exponent) = numeral :=
    String.ofList_injective (Token.number.inj ht)
  rw [hl, ← List.prefix_iff_eq_take.mp hp, ht, ← hnumeral]
  exact lexeme_of_parts parts

theorem lexeme_of_name (hc : startsName c = true) (h : name (c :: rest) = .token t length) :
    Lexeme ((c :: rest).take length) t := by
  have hp : (c :: rest).takeWhile continuesName <+: c :: rest := List.takeWhile_prefix _
  have hc' := continuesName_of_starts hc
  cases h
  rw [← List.prefix_iff_eq_take.mp hp]
  rw [List.takeWhile_cons_of_pos hc']
  have hname : IsName (.ofList (c :: rest.takeWhile continuesName)) :=
    ⟨c, _, String.toList_ofList, hc, fun d => List.mem_takeWhile_imp⟩
  simpa using Lexeme.name hname

theorem single_prefix {text : List Char} : [c] <+: text ↔ ∃ rest, text = c :: rest :=
  ⟨fun ⟨rest, h⟩ => ⟨rest, h.symm⟩, fun ⟨rest, h⟩ => ⟨rest, h.symm⟩⟩

/-- Lookups in the table of symbols. -/
theorem symbol_start (h : (word, t) ∈ symbols) : ∃ c cs, word = c :: cs ∧ c ∈ symbolStarts := by
  have hne : ∀ symbol ∈ symbols, symbol.1 ≠ [] := by decide
  have hstart : ∀ symbol ∈ symbols, symbol.1.headD ' ' ∈ symbolStarts := by decide
  obtain ⟨c, cs, rfl⟩ := List.exists_cons_of_ne_nil (hne _ h)
  exact ⟨c, cs, rfl, hstart _ h⟩

theorem symbol_unique (h : (word, t) ∈ symbols) (h' : (word, t') ∈ symbols) : t = t' := by
  have hunique : ∀ x ∈ symbols, ∀ y ∈ symbols, x.1 = y.1 → x.2 = y.2 := by decide
  exact hunique _ h _ h' rfl

theorem symbol_length (h : (word, t) ∈ symbols) : word.length ≤ 2 := by
  have hlength : ∀ symbol ∈ symbols, symbol.1.length ≤ 2 := by decide
  exact hlength _ h

theorem symbol_le_of_head (h : ∀ symbol ∈ symbols, symbol.1.head? = some c → symbol.1.length ≤ n)
    (rest : List Char) : ∀ symbol ∈ symbols, symbol.1 <+: c :: rest → symbol.1.length ≤ n := by
  intro symbol mem hp
  refine h symbol mem ?_
  have hne : symbol.1 ≠ [] := (by decide : ∀ symbol ∈ symbols, symbol.1 ≠ []) symbol mem
  obtain ⟨a, word, hword⟩ := List.exists_cons_of_ne_nil hne
  rw [hword, List.cons_prefix_cons] at hp
  rw [hword, hp.1, List.head?_cons]

/-- Where a symbol can start, the longest one is read. -/
theorem ofText_symbol (hc : c ∈ symbolStarts) (rest : List Char) :
    (∃ t length, ofText (c :: rest) = .token t length ∧
        ((c :: rest).take length, t) ∈ symbols ∧
        ∀ symbol ∈ symbols, symbol.1 <+: c :: rest → symbol.1.length ≤ length) ∨
      ∃ fault, ofText (c :: rest) = .fault fault 0 ∧
        ∀ symbol ∈ symbols, ¬ symbol.1 <+: c :: rest := by
  unfold ofText
  split
  case h_1 hnil => cases hnil
  case h_32 hcons =>
    cases hcons
    simp only [symbolStarts, List.mem_cons, List.not_mem_nil, or_false] at hc
    grind
  case h_27 hequal hless hgreater hcons =>
    cases hcons
    exact .inr ⟨_, rfl, by simpa [symbols, single_prefix] using ⟨hless, hgreater, hequal⟩⟩
  case h_29 hne hcons | h_31 hne hcons =>
    cases hcons
    exact .inr ⟨_, rfl, by simpa [symbols, single_prefix] using hne⟩
  case h_18 hne hcons | h_20 hne hcons  =>
    cases hcons
    exact .inl ⟨_, _, rfl, by simp [symbols], by simpa [symbols, single_prefix] using hne⟩
  case h_23 hne hne' hcons =>
    cases hcons
    exact .inl ⟨_, _, rfl, by simp [symbols],
      by simpa [symbols, single_prefix] using ⟨hne, hne'⟩⟩
  all_goals
    rename_i hcons
    cases hcons
    exact .inl ⟨_, _, rfl, by simp [symbols], symbol_le_of_head (by decide) _⟩

theorem not_mem_symbolStarts_of_number (h : c = '.' ∨ c.isDigit = true) : c ∉ symbolStarts := by
  intro hm
  have hall : symbolStarts.all (fun x => !(x == '.' || x.isDigit)) = true := by decide
  have hc := List.all_eq_true.mp hall c hm
  rcases h with rfl | h
  · cases hc
  · simp [h] at hc

/-- The first character of a lexeme tells of which sort it is. -/
theorem lexeme_start (h : Lexeme word t) : ∃ c cs, word = c :: cs ∧
    ((c ∈ symbolStarts ∧ (word, t) ∈ symbols) ∨
      ((c = '.' ∨ c.isDigit = true) ∧ ∃ whole fraction exponent,
        word = whole ++ (fraction ++ exponent) ∧ NumberParts whole fraction exponent) ∨
      startsName c = true ∧ ∀ d ∈ cs, continuesName d = true) := by
  cases h with
  | number h =>
    obtain ⟨whole, fraction, exponent, htext, parts⟩ := h
    obtain ⟨c, cs, hcons, hc⟩ := parts.head
    exact ⟨c, cs, htext.trans hcons, .inr (.inl ⟨hc, whole, fraction, exponent, htext, parts⟩)⟩
  | name h =>
    obtain ⟨c, cs, htext, hc, hcs⟩ := h
    exact ⟨c, cs, htext, .inr (.inr ⟨hc, hcs⟩)⟩
  | symbol h =>
    obtain ⟨c, cs, hword, hc⟩ := symbol_start h
    exact ⟨c, cs, hword, .inl ⟨hc, h⟩⟩

theorem lexeme_ne_nil (h : Lexeme word t) : word ≠ [] := by
  obtain ⟨c, cs, rfl, -⟩ := lexeme_start h
  exact List.cons_ne_nil c cs

theorem lexeme_ne_finish (h : Lexeme word t) : t ≠ .finish := by
  have hsolid : ∀ symbol ∈ symbols, symbol.2 ≠ .finish := by decide
  cases h with
  | number h => simp
  | name h => simp
  | symbol h => exact hsolid _ h

theorem ofText_of_number (hc : c = '.' ∨ c.isDigit = true) (rest : List Char) :
    ofText (c :: rest) = number (c :: rest) := by
  rw [ofText_word (not_mem_symbolStarts_of_number hc), if_pos (by simpa using hc)]

theorem ofText_of_name (hc : startsName c = true) (rest : List Char) :
    ofText (c :: rest) = name (c :: rest) := by
  have hdot : c ≠ '.' := by
    rintro rfl
    exact absurd hc (by decide)
  rw [ofText_word (not_mem_symbolStarts hc), if_neg (by simp [hdot, isDigit_of_startsName hc]),
    if_pos hc]

/-- No lexeme at the start of a text is longer than what is read there. -/
theorem ofText_longest (h : Lexeme word t) (hp : word <+: text) :
    word.length ≤ (ofText text).extent := by
  obtain ⟨c, cs, rfl, hsort⟩ := lexeme_start h
  obtain ⟨rest, rfl⟩ := hp
  rw [List.cons_append]
  have hp : c :: cs <+: c :: (cs ++ rest) := List.prefix_append ..
  rcases hsort with ⟨hc, hmem⟩ | ⟨hc, whole, fraction, exponent, hword, parts⟩ | ⟨hc, hcs⟩
  · rcases ofText_symbol hc (cs ++ rest) with ⟨t', n, hread, -, hlongest⟩ | ⟨fault, -, hnone⟩
    · rw [hread]
      exact hlongest _ hmem hp
    · exact absurd hp (hnone _ hmem)
  · rw [ofText_of_number hc, hword]
    exact number_longest parts (hword ▸ hp)
  · have hinside : ∀ d ∈ c :: cs, continuesName d = true :=
      List.forall_mem_cons.mpr ⟨continuesName_of_starts hc, hcs⟩
    rw [ofText_of_name hc, ← List.cons_append]
    simp only [name, extent]
    rw [List.takeWhile_append_of_pos hinside, List.length_append]
    exact Nat.le_add_right ..

/-- What is read is a lexeme. -/
theorem ofText_lexeme (h : ofText text = .token t length) (ht : t ≠ .finish) :
    Lexeme (text.take length) t := by
  cases text with
  | nil =>
    cases h
    exact absurd rfl ht
  | cons c rest =>
    by_cases hc : c ∈ symbolStarts
    · rcases ofText_symbol hc rest with ⟨t', n, hread, hmem, -⟩ | ⟨fault, hread, -⟩
      · cases h.symm.trans hread
        exact .symbol hmem
      · cases h.symm.trans hread
    · rw [ofText_word hc] at h
      split at h
      · rename_i hnumber
        exact lexeme_of_number (by simpa using hnumber) h
      · split at h
        · exact lexeme_of_name ‹_› h
        · cases h

/-! Where a number is cut off no token is read. -/

theorem fraction?_point (text : List Char) : fraction? ('.' :: text) ≠ some [] := by
  simp only [fraction?]
  split <;> simp

theorem exponent?_mark (hm : m = 'e' ∨ m = 'E') (text : List Char) :
    exponent? (m :: text) ≠ some [] := by
  have hmark : (m == 'e' || m == 'E') = true := by simpa using hm
  simp only [exponent?, hmark, ↓reduceIte]
  split <;> dsimp only <;> split <;> simp

theorem fraction?_none (h : fraction? text = none) : ∃ rest, text = '.' :: rest := by
  unfold fraction? at h
  split at h
  · exact ⟨_, rfl⟩
  · cases h

theorem exponent?_none (h : exponent? text = none) :
    ∃ c rest, text = c :: rest ∧ (c = 'e' ∨ c = 'E') := by
  unfold exponent? at h
  split at h
  · split at h
    · rename_i hmark
      exact ⟨_, _, rfl, by simpa using hmark⟩
    · cases h
  · cases h

theorem not_isDigit_of_mark (h : c = 'e' ∨ c = 'E') : c.isDigit = false := by
  rcases h with rfl | rfl <;> rfl

/-- What is read is not cut off. -/
theorem number_ends (h : number (word ++ c :: rest) = .token t word.length) : ¬ CutOff word c := by
  obtain ⟨whole, fraction, exponent, hw, hf, he, -, hl⟩ := number_parts h
  intro hcut
  cases hcut with
  | point digits =>
    have hrun : (word ++ '.' :: rest).takeWhile Char.isDigit = word :=
      takeWhile_run digits.2 (by simp)
    rw [hw, hrun, List.drop_left] at hf
    rw [hw, hrun] at hl
    obtain ⟨rfl, -⟩ : fraction = [] ∧ exponent = [] := by simpa using hl
    exact fraction?_point rest hf
  | @mark whole' fraction' _ parts hword hc =>
    subst hword
    have hdigit := not_isDigit_of_mark hc
    have hhead : ∀ d ∈ (fraction' ++ c :: rest).head?, d.isDigit = false := by
      refine head?_append (fun d hd => ?_) fun _ => by simpa using hdigit
      rw [parts.point.head d hd]
      rfl
    have hrun : (whole' ++ (fraction' ++ c :: rest)).takeWhile Char.isDigit = whole' :=
      takeWhile_run parts.digits hhead
    have hpoint : c ≠ '.' := by rintro rfl; simp at hc
    rw [List.append_assoc, hrun] at hw
    subst hw
    rw [List.append_assoc, List.drop_left,
      fraction?_run parts.point (by simpa using hdigit) fun _ => by simpa using hpoint] at hf
    cases hf
    rw [List.drop_left] at he
    obtain rfl : exponent = [] := by simpa using hl
    exact exponent?_mark hc rest he

/-- A fault in a number is behind its longest start, which is cut off there. -/
theorem number_fault (h : number text = .fault why length) :
    length = 0 ∨ ∃ word c rest, text = word ++ c :: rest ∧ word.length = length ∧
      (∃ t, Lexeme word t) ∧ CutOff word c := by
  have hwhole : text.takeWhile Char.isDigit <+: text := List.takeWhile_prefix _
  have hdigits : ∀ d ∈ text.takeWhile Char.isDigit, d.isDigit = true :=
    fun d => List.mem_takeWhile_imp
  unfold number at h
  generalize text.takeWhile Char.isDigit = whole at hwhole hdigits h
  dsimp only at h
  split at h
  · rename_i hf
    cases h
    obtain ⟨rest, hrest⟩ := fraction?_none hf
    by_cases hne : whole = []
    · exact .inl (by rw [hne]; rfl)
    · have parts : NumberParts whole [] [] := ⟨hdigits, .inl rfl, .inl rfl, .inl hne⟩
      refine .inr ⟨whole, '.', rest, ?_, rfl, ⟨_, by simpa using lexeme_of_parts parts⟩,
        .point ⟨hne, hdigits⟩⟩
      rw [← hrest, List.prefix_iff_eq_append.mp hwhole]
  · split at h
    · rename_i fraction hf _ he
      cases h
      obtain ⟨c, rest, hrest, hc⟩ := exponent?_none he
      by_cases hne : whole ++ fraction = []
      · exact .inl (by rw [hne]; rfl)
      · have hsignificand : whole ++ fraction <+: text :=
          append_prefix_of_drop hwhole (fraction?_start hf)
        have parts : NumberParts whole fraction [] :=
          ⟨hdigits, fraction?_shape hf, .inl rfl, by simpa [Classical.or_iff_not_imp_left] using hne⟩
        refine .inr ⟨whole ++ fraction, c, rest, ?_, rfl,
          ⟨_, by simpa using lexeme_of_parts parts⟩, .mark parts rfl hc⟩
        rw [← hrest, List.prefix_iff_eq_append.mp hsignificand]
    · cases h

/-- Where a lexeme starts, reading fails only behind it, and only if it is cut off. -/
theorem ofText_fault (h : ofText text = .fault why length) (hne : text ≠ []) :
    (length = 0 ∧ ∀ word t, Lexeme word t → ¬ word <+: text) ∨
      ∃ word c rest, text = word ++ c :: rest ∧ word.length = length ∧
        (∃ t, Lexeme word t) ∧ CutOff word c := by
  have hnone : length = 0 → ∀ word t, Lexeme word t → ¬ word <+: text := by
    rintro rfl word t hl hp
    have hle := ofText_longest hl hp
    rw [h] at hle
    exact lexeme_ne_nil hl (List.length_eq_zero_iff.mp (Nat.le_zero.mp hle))
  obtain ⟨c, rest, rfl⟩ := List.exists_cons_of_ne_nil hne
  by_cases hc : c ∈ symbolStarts
  · rcases ofText_symbol hc rest with ⟨t, n, hread, -, -⟩ | ⟨fault, hread, -⟩
    · cases h.symm.trans hread
    · cases h.symm.trans hread
      exact .inl ⟨rfl, hnone rfl⟩
  · have hread := h
    rw [ofText_word hc] at hread
    split at hread
    · rcases number_fault hread with hzero | hcut
      · exact .inl ⟨hzero, hnone hzero⟩
      · exact .inr hcut
    · split at hread
      · cases hread
      · cases hread
        exact .inl ⟨rfl, hnone rfl⟩

theorem ofText_ends (h : ofText (word ++ c :: rest) = .token t word.length) : ¬ CutOff word c := by
  intro hcut
  obtain ⟨d, ds, rfl, hd⟩ := hcut.head
  rw [List.cons_append, ofText_of_number hd] at h
  exact number_ends h hcut

section Longest

variable (longer : ∀ c ∈ rest.head?, ∀ t, ¬ Lexeme (word ++ [c]) t)
include longer

theorem ofText_of_longest_number {spelling : String} (h : IsNumber spelling)
    (hword : word = spelling.toList)
    (cut : ∀ c ∈ rest.head?, ¬ CutOff word c) :
    ofText (word ++ rest) = .token (.number spelling) word.length := by
  obtain ⟨whole, fraction, exponent, htext, parts⟩ := h
  obtain ⟨c, cs, hcons, hc⟩ := parts.head
  have hread : number (word ++ rest) =
      .token (.number (.ofList (whole ++ (fraction ++ exponent)))) word.length := by
    rw [hword, htext]
    refine number_run parts ?_ ?_ ?_
    · intro d hd
      by_contra hdigit
      obtain ⟨whole', fraction', exponent', parts', hsnoc⟩ := parts.snoc (by simpa using hdigit)
      rw [← htext, ← hword] at hsnoc
      exact longer d hd _ (hsnoc ▸ lexeme_of_parts parts')
    · rintro rfl rfl d hd rfl
      have hwhole : word = whole := by simp [hword, htext]
      exact cut '.' hd (.point ⟨hwhole ▸ by simpa using parts.present, hwhole ▸ parts.digits⟩)
    · rintro rfl d hd
      have hwhole : word = whole ++ fraction := by simp [hword, htext]
      rw [← not_or]
      exact fun hmark => cut d hd (.mark parts hwhole hmark)
  rw [hword, htext, hcons, List.cons_append, ofText_of_number hc, ← List.cons_append, ← hcons,
    ← htext, ← hword, hread, ← htext, String.ofList_toList]

theorem ofText_of_longest_name {spelling : String} (h : IsName spelling)
    (hword : word = spelling.toList) :
    ofText (word ++ rest) = .token (.identifier spelling) word.length := by
  obtain ⟨c, cs, htext, hc, hcs⟩ := h
  have hinside : ∀ d ∈ c :: cs, continuesName d = true :=
    List.forall_mem_cons.mpr ⟨continuesName_of_starts hc, hcs⟩
  have hends : ∀ d ∈ rest.head?, continuesName d = false := by
    intro d hd
    by_contra hcont
    have hname : IsName (.ofList (word ++ [d])) := by
      refine ⟨c, cs ++ [d], by rw [String.toList_ofList, hword, htext]; rfl, hc, ?_⟩
      exact List.forall_mem_append.mpr ⟨hcs, by simpa using hcont⟩
    exact longer d hd _ (by simpa using Lexeme.name hname)
  rw [hword, htext, List.cons_append, ofText_of_name hc, ← List.cons_append, name,
    takeWhile_run hinside hends, ← htext, String.ofList_toList]

theorem ofText_of_longest_symbol (h : (word, t) ∈ symbols) :
    ofText (word ++ rest) = .token t word.length := by
  obtain ⟨c, cs, rfl, hc⟩ := symbol_start h
  rcases ofText_symbol hc (cs ++ rest) with ⟨t', n, hread, hmem, hlongest⟩ | ⟨fault, -, hnone⟩
  · have hle : (c :: cs).length ≤ n := hlongest _ h (List.prefix_append ..)
    obtain heq | hlt := Nat.eq_or_lt_of_le hle
    · subst heq
      rw [← List.cons_append, List.take_left] at hmem
      rw [List.cons_append, hread, symbol_unique h hmem]
    · have hn := ofText_length_le hread
      have hlen : ((c :: (cs ++ rest)).take n).length = n := List.length_take_of_le hn
      have htwo : n ≤ 2 := hlen ▸ symbol_length hmem
      rw [List.length_cons] at hlt
      obtain rfl : cs = [] := List.length_eq_zero_iff.mp (by omega)
      obtain rfl : n = 2 := by omega
      cases rest with
      | nil => simp at hn
      | cons d rest => exact absurd (Lexeme.symbol hmem) (longer d rfl _)
  · exact absurd (List.prefix_append ..) (hnone _ h)

end Longest

/-- A text is read as one lexeme if it is not cut off and no longer lexeme starts there. -/
theorem ofText_of_longest (h : Lexeme word t)
    (longer : ∀ c ∈ rest.head?, ∀ t, ¬ Lexeme (word ++ [c]) t)
    (cut : ∀ c ∈ rest.head?, ¬ CutOff word c) :
    ofText (word ++ rest) = .token t word.length := by
  cases h with
  | number h => exact ofText_of_longest_number longer h rfl cut
  | name h => exact ofText_of_longest_name longer h rfl
  | symbol h => exact ofText_of_longest_symbol longer h

/-- What it takes for a word to be read in front of something else. -/
theorem ofText_token_iff (ht : t ≠ .finish) :
    ofText (word ++ rest) = .token t word.length ↔
      Lexeme word t ∧ (∀ c ∈ rest.head?, ∀ t, ¬ Lexeme (word ++ [c]) t) ∧
        ∀ c ∈ rest.head?, ¬ CutOff word c := by
  constructor
  · intro h
    refine ⟨by simpa using ofText_lexeme h ht, ?_, ?_⟩
    · intro c hc t' h'
      obtain ⟨rest, rfl⟩ := List.head?_eq_some_iff.mp hc
      have hp : word ++ [c] <+: word ++ c :: rest := ⟨rest, by simp⟩
      have hle := ofText_longest h' hp
      rw [h, List.length_append] at hle
      exact Nat.not_succ_le_self _ hle
    · intro c hc
      obtain ⟨rest, rfl⟩ := List.head?_eq_some_iff.mp hc
      exact ofText_ends h
  · rintro ⟨h, longer, cut⟩
    exact ofText_of_longest h longer cut

end Reading
end Formula
