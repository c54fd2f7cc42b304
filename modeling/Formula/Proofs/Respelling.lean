import Formula.Proofs.WellFormed

namespace Formula

/-- Tokens that are the same up to the case of a name. -/
inductive Token.Respelled : Token → Token → Prop where
  | kept : Respelled t t
  | name (folded : Text.lower n = Text.lower m) : Respelled (.identifier n) (.identifier m)

/-- Trees that are the same up to the case of the names of variables and functions. -/
inductive Node.Respelled : Node → Node → Prop where
  | node (folded : Text.lower word = Text.lower word')
      (kept : k ≠ .identifier → k ≠ .call → word = word')
      (operands : List.Forall₂ Respelled ts us) : Respelled ⟨k, word, ts⟩ ⟨k, word', us⟩

/-- Phrases that hold trees which are the same up to the case of names. -/
inductive Phrase.Respelled : Phrase → Phrase → Prop where
  | conditional : Respelled .conditional .conditional
  | binary (r : Rank) : Respelled (.binary r) (.binary r)
  | signed : Respelled .signed .signed
  | atom : Respelled .atom .atom
  | joined (r : Rank) (left : Node.Respelled t u) : Respelled (.joined r t) (.joined r u)
  | arguments : Respelled .arguments .arguments
  | further (first : Node.Respelled t u) : Respelled (.further t) (.further u)

theorem Rank.respelled_operand (r : Rank) : r.operand.Respelled r.operand := by
  cases r with
  | power => exact .signed
  | _ => exact .binary _

namespace Token

theorem Respelled.eq_of_kept (h : Respelled t u) (kept : ∀ name, t ≠ .identifier name) : u = t := by
  cases h with
  | kept => rfl
  | name folded => exact absurd rfl (kept _)

theorem Respelled.eq_identifier (h : Respelled (.identifier n) t) :
    ∃ m, t = .identifier m ∧ Text.lower n = Text.lower m := by
  cases h with
  | kept => exact ⟨n, rfl, rfl⟩
  | name folded => exact ⟨_, rfl, folded⟩

theorem Respelled.symm (h : Respelled t u) : Respelled u t := by
  cases h with
  | kept => exact .kept
  | name folded => exact .name folded.symm

/-- A name does not turn into the call of a function. -/
theorem Respelled.opens_iff (h : Respelled t u) : t = .leftParen ↔ u = .leftParen := by
  cases h with
  | kept => exact Iff.rfl
  | name folded => simp

theorem respelled_headD (h : List.Forall₂ Respelled ts us) (hnext : Respelled next next') :
    Respelled (ts.headD next) (us.headD next') := by
  cases h with
  | nil => exact hnext
  | cons first _ => exact first

theorem respelled_append (h : List.Forall₂ Respelled (ts ++ vs) us) :
    ∃ ws zs, us = ws ++ zs ∧ List.Forall₂ Respelled ts ws ∧ List.Forall₂ Respelled vs zs := by
  induction ts generalizing us with
  | nil => exact ⟨[], us, rfl, .nil, h⟩
  | cons t ts ih =>
    cases h with
    | cons first others =>
      obtain ⟨ws, zs, rfl, hws, hzs⟩ := ih others
      exact ⟨_ :: ws, zs, rfl, .cons first hws, hzs⟩

/-- A token that is no name is kept. -/
theorem respelled_cons (h : List.Forall₂ Respelled (t :: ts) us)
    (kept : ∀ name, t ≠ .identifier name) :
    ∃ ws, us = t :: ws ∧ List.Forall₂ Respelled ts ws := by
  cases h with
  | cons first others =>
    obtain rfl := first.eq_of_kept kept
    exact ⟨_, rfl, others⟩

/-- The call of a function stays a call. -/
theorem respelled_called
    (h : List.Forall₂ Respelled (.identifier n :: .leftParen :: ts) us) :
    ∃ m ws, us = .identifier m :: .leftParen :: ws ∧ Text.lower n = Text.lower m ∧
      List.Forall₂ Respelled ts ws := by
  cases h with
  | cons first others =>
    obtain ⟨m, rfl, folded⟩ := first.eq_identifier
    obtain ⟨ws, rfl, hws⟩ := respelled_cons others (by simp)
    exact ⟨m, ws, rfl, folded, hws⟩

end Token

namespace Node

theorem respelled_operator (k : Kind) (h : List.Forall₂ Respelled ts us) :
    Respelled (operator k ts) (operator k us) :=
  .node rfl (fun _ _ => rfl) h

theorem nestings_congr (h : List.Forall₂ (fun t u => nesting t = nesting u) ts us) :
    nestings ts = nestings us := by
  induction h with
  | nil => rfl
  | cons first _ ih => rw [nestings, nestings, first, ih]

/-- The depth of a node is that of its operands, whatever its text. -/
theorem nesting_congr (h : List.Forall₂ (fun t u => nesting t = nesting u) ts us)
    (k : Kind) (word word' : String) : nesting ⟨k, word, ts⟩ = nesting ⟨k, word', us⟩ := by
  have hall := nestings_congr h
  cases k with
  | number | identifier => rfl
  | call =>
    cases h with
    | nil => rfl
    | cons first others => exact congrArg (1 + ·) hall
  | group | sign s => exact congrArg (1 + ·) hall
  | arguments => exact hall
  | operator op =>
    match h with
    | .nil | .cons _ .nil | .cons _ (.cons _ (.cons _ _)) => rfl
    | .cons hl (.cons hr .nil) => simp only [nesting, hl, hr]
  | conditional =>
    match h with
    | .nil | .cons _ .nil | .cons _ (.cons _ .nil) | .cons _ (.cons _ (.cons _ (.cons _ _))) => rfl
    | .cons hc (.cons hy (.cons hn .nil)) => simp only [nesting, hc, hy, hn]

/-- The induction is on the size of the first tree, whose operands are related as a list. -/
theorem Respelled.nesting_eq (h : Respelled t u) : t.nesting = u.nesting := by
  induction hn : t.size using Nat.strongRecOn generalizing t u with
  | _ n ih =>
    subst hn
    cases h with
    | @node word word' k ts us folded kept operands =>
      refine nesting_congr (forall₂_of_smaller operands fun t u smaller respelled => ?_) ..
      exact ih t.size smaller respelled rfl

/-- Nodes of the same kind with the same name in lower case. -/
def Namesake (n m : Node) : Prop :=
  n.kind = m.kind ∧ Text.lower n.text = Text.lower m.text

theorem Respelled.namesake (h : Respelled t u) : Namesake t u := by
  cases h with
  | node folded kept operands => exact ⟨rfl, folded⟩

theorem Respelled.operands (h : Respelled t u) : List.Forall₂ Respelled t.operands u.operands := by
  cases h with
  | node folded kept operands => exact operands

theorem respelled_preorderFrom {visited visited' : Array Node}
    (hv : List.Forall₂ Namesake visited.toList visited'.toList)
    (h : List.Forall₂ Respelled ts us) :
    List.Forall₂ Namesake (preorderFrom visited ts).toList (preorderFrom visited' us).toList := by
  fun_induction preorderFrom visited ts generalizing visited' us with
  | case1 visited =>
    cases h
    rw [preorderFrom]
    exact hv
  | case2 visited node rest ih =>
    cases h with
    | @cons _ node' _ rest' first others =>
      have hpush :
          List.Forall₂ Namesake (visited.push node).toList (visited'.push node').toList := by
        rw [Array.toList_push, Array.toList_push]
        exact List.rel_append hv (.cons first.namesake .nil)
      rw [preorderFrom]
      exact ih hpush (List.rel_append (List.rel_reverse first.operands) others)

theorem Respelled.namesOf_eq (h : Respelled t u) (kind : Kind) :
    t.namesOf kind = u.namesOf kind := by
  have visited : List.Forall₂ Namesake t.preorder u.preorder :=
    respelled_preorderFrom .nil (.cons h .nil)
  unfold namesOf
  generalize t.preorder = nodes, u.preorder = nodes', (∅ : Names) = names at visited ⊢
  induction visited generalizing names with
  | nil => rfl
  | cons first _ ih => rw [List.foldl_cons, List.foldl_cons, first.1, first.2, ih]

end Node

namespace Derives

/-- Names in another case make a tree with its names in that case. -/
theorem respell (h : Derives φ ts next t) (hφ : φ.Respelled φ')
    (hts : List.Forall₂ Token.Respelled ts us) (hnext : next.Respelled next') :
    ∃ u, Derives φ' us next' u ∧ t.Respelled u := by
  induction h generalizing φ' us next' with
  | number =>
    cases hφ
    obtain ⟨_, rfl, ⟨⟩⟩ := Token.respelled_cons hts (by simp)
    exact ⟨_, .number, .node rfl (fun _ _ => rfl) .nil⟩
  | identifier open? =>
    cases hφ
    cases hts with
    | cons first others =>
      cases others
      obtain ⟨m, rfl, folded⟩ := first.eq_identifier
      exact ⟨_, .identifier fun h => open? (hnext.opens_iff.mpr h), .node folded (by simp) .nil⟩
  | emptyCall =>
    cases hφ
    obtain ⟨m, _, rfl, folded, hclosing⟩ := Token.respelled_called hts
    obtain ⟨_, rfl, ⟨⟩⟩ := Token.respelled_cons hclosing (by simp)
    exact ⟨_, .emptyCall, .node folded (by simp) .nil⟩
  | call all ih =>
    cases hφ
    obtain ⟨m, _, rfl, folded, hrest⟩ := Token.respelled_called hts
    obtain ⟨ws, _, rfl, hws, hclosing⟩ := Token.respelled_append hrest
    obtain ⟨_, rfl, ⟨⟩⟩ := Token.respelled_cons hclosing (by simp)
    obtain ⟨u, hu, htu⟩ := ih .arguments hws .kept
    exact ⟨_, .call hu, .node folded (by simp) (.cons htu .nil)⟩
  | group b inner ih =>
    cases hφ
    obtain ⟨_, rfl, hrest⟩ := Token.respelled_cons hts b.opening_ne_identifier
    obtain ⟨ws, _, rfl, hws, hclosing⟩ := Token.respelled_append hrest
    obtain ⟨_, rfl, ⟨⟩⟩ := Token.respelled_cons hclosing b.closing_ne_identifier
    obtain ⟨u, hu, htu⟩ := ih .conditional hws .kept
    exact ⟨_, .group b hu, Node.respelled_operator _ (.cons htu .nil)⟩
  | unsigned alone ih =>
    cases hφ
    obtain ⟨u, hu, htu⟩ := ih .atom hts hnext
    exact ⟨u, .unsigned hu, htu⟩
  | sign s operand ih =>
    cases hφ
    obtain ⟨ws, rfl, hws⟩ := Token.respelled_cons hts s.symbol_ne_identifier
    obtain ⟨u, hu, htu⟩ := ih .signed hws hnext
    exact ⟨_, .sign s hu, Node.respelled_operator _ (.cons htu .nil)⟩
  | operand right alone ih =>
    cases hφ
    obtain ⟨u, hu, htu⟩ := ih (Rank.respelled_operand _) hts hnext
    exact ⟨u, .operand right hu, htu⟩
  | rightward op level right left again ih ih' =>
    cases hφ
    obtain ⟨ws, _, rfl, hws, hrest⟩ := Token.respelled_append hts
    obtain ⟨zs, rfl, hzs⟩ := Token.respelled_cons hrest op.symbol_ne_identifier
    obtain ⟨u, hu, htu⟩ := ih (Rank.respelled_operand _) hws .kept
    obtain ⟨v, hv, huv⟩ := ih' (.binary _) hzs hnext
    exact ⟨_, .rightward op level right hu hv,
      Node.respelled_operator _ (.cons htu (.cons huv .nil))⟩
  | leftward left first others ih ih' =>
    cases hφ
    obtain ⟨ws, zs, rfl, hws, hzs⟩ := Token.respelled_append hts
    obtain ⟨u, hu, htu⟩ := ih (Rank.respelled_operand _) hws (Token.respelled_headD hzs hnext)
    obtain ⟨v, hv, huv⟩ := ih' (.joined _ htu) hzs hnext
    exact ⟨v, .leftward left hu hv, huv⟩
  | unconditional alone ih =>
    cases hφ
    obtain ⟨u, hu, htu⟩ := ih (.binary _) hts hnext
    exact ⟨u, .unconditional hu, htu⟩
  | conditional condition yes no ih ih' ih'' =>
    cases hφ
    obtain ⟨cs, _, rfl, hcs, hquestion⟩ := Token.respelled_append hts
    obtain ⟨_, rfl, hchoices⟩ := Token.respelled_cons hquestion (by simp)
    obtain ⟨ys, _, rfl, hys, hcolon⟩ := Token.respelled_append hchoices
    obtain ⟨ns, rfl, hns⟩ := Token.respelled_cons hcolon (by simp)
    obtain ⟨c, hc, hcc⟩ := ih (.binary _) hcs .kept
    obtain ⟨y, hy, hyy⟩ := ih' .conditional hys .kept
    obtain ⟨n, hn, hnn⟩ := ih'' .conditional hns hnext
    exact ⟨_, .conditional hc hy hn,
      Node.respelled_operator _ (.cons hcc (.cons hyy (.cons hnn .nil)))⟩
  | joinedNone =>
    obtain _ | _ | _ | _ | ⟨_, left⟩ := hφ
    cases hts
    exact ⟨_, .joinedNone, left⟩
  | joinedMore op level operand others ih ih' =>
    obtain _ | _ | _ | _ | ⟨_, left⟩ := hφ
    obtain ⟨_, rfl, hrest⟩ := Token.respelled_cons hts op.symbol_ne_identifier
    obtain ⟨ws, zs, rfl, hws, hzs⟩ := Token.respelled_append hrest
    obtain ⟨u, hu, htu⟩ := ih (Rank.respelled_operand _) hws (Token.respelled_headD hzs hnext)
    have hjoined := Node.respelled_operator (.operator op) (.cons left (.cons htu .nil))
    obtain ⟨v, hv, huv⟩ := ih' (.joined _ hjoined) hzs hnext
    exact ⟨v, .joinedMore op level hu hv, huv⟩
  | arguments first others ih ih' =>
    cases hφ
    obtain ⟨ws, zs, rfl, hws, hzs⟩ := Token.respelled_append hts
    obtain ⟨u, hu, htu⟩ := ih .conditional hws (Token.respelled_headD hzs hnext)
    obtain ⟨v, hv, huv⟩ := ih' (.further htu) hzs hnext
    exact ⟨v, .arguments hu hv, huv⟩
  | furtherNone =>
    obtain _ | _ | _ | _ | _ | _ | first := hφ
    cases hts
    exact ⟨_, .furtherNone, first⟩
  | furtherMore others ih =>
    obtain _ | _ | _ | _ | _ | _ | first := hφ
    obtain ⟨ws, rfl, hws⟩ := Token.respelled_cons hts (by simp)
    obtain ⟨u, hu, htu⟩ := ih .arguments hws hnext
    exact ⟨_, .furtherMore hu, Node.respelled_operator _ (.cons first (.cons htu .nil))⟩

end Derives
end Formula
