import MarkupCensus.Proofs.Usages
import Mathlib.Data.List.Forall2

namespace MarkupCensus

/-- Two results are alike: the same error, or values in a given relation. -/
inductive Alike {ε α β : Type} (R : α → β → Prop) : Except ε α → Except ε β → Prop
  | error (e : ε) : Alike R (.error e) (.error e)
  | ok {a : α} {b : β} (h : R a b) : Alike R (.ok a) (.ok b)

namespace Alike

variable {ε α β γ δ : Type} {R : α → β → Prop} {S : γ → δ → Prop}

theorem eq {x y : Except ε α} (h : Alike Eq x y) : x = y := by
  cases h with
  | error e => rfl
  | ok h => rw [h]

theorem bind {x : Except ε α} {y : Except ε β} {f : α → Except ε γ} {g : β → Except ε δ}
    (h : Alike R x y) (hfg : ∀ a b, R a b → Alike S (f a) (g b)) : Alike S (x >>= f) (y >>= g) := by
  cases h with
  | error e => exact .error e
  | ok h => exact hfg _ _ h

theorem mapM {f : α → Except ε γ} {g : β → Except ε δ} {as : List α} {bs : List β}
    (h : List.Forall₂ R as bs) (hfg : ∀ a b, R a b → Alike S (f a) (g b)) :
    Alike (List.Forall₂ S) (as.mapM f) (bs.mapM g) := by
  induction h with
  | nil =>
    rw [List.mapM_nil, List.mapM_nil]
    exact .ok .nil
  | cons hab _ ih =>
    rw [List.mapM_cons, List.mapM_cons]
    refine bind (hfg _ _ hab) ?_
    intro c d hcd
    refine bind ih ?_
    intro cs ds hcds
    exact .ok (.cons hcd hcds)

theorem foldlM {f : γ → α → Except ε γ} {g : γ → β → Except ε γ} {as : List α} {bs : List β}
    (h : List.Forall₂ R as bs) (hfg : ∀ c a b, R a b → f c a = g c b) (c : γ) :
    as.foldlM f c = bs.foldlM g c := by
  induction h generalizing c with
  | nil => rfl
  | cons hab _ ih =>
    rw [List.foldlM_cons, List.foldlM_cons, hfg c _ _ hab]
    congr 1
    funext d
    exact ih d

end Alike

namespace Node

/-- A comment stands beside the parts of a node and fills no role. -/
structure IsComment (n : Node) : Prop where
  kind : n.kind = "comment"
  named : n.named = true
  missing : n.missing = false
  role : n.role = none
  children : n.children = []

/-- A token that the grammar has no name for, such as a bracket, with nothing but comments in it. -/
structure IsToken (n : Node) : Prop where
  named : n.named = false
  sound : n.isFaulty = false
  children : ∀ c ∈ n.children, c.IsComment

def isSignificant (n : Node) : Bool := n.named && n.kind != "comment"

/-- A node in any number of parentheses, in which there may be comments. -/
inductive Wrapped (n : Node) : Node → Prop
  | bare : Wrapped n n
  | parens {inner outer : Node} {before after : List Node} (h : Wrapped n inner)
      (kind : outer.kind = "parenthesized_expression") (named : outer.named = true)
      (missing : outer.missing = false) (children : outer.children = before ++ inner :: after)
      (others : ∀ c ∈ before ++ after, c.IsComment ∨ c.IsToken) : Wrapped n outer

/-- Where a list of children stands. -/
inductive Setting where
  | elsewhere
  /-- In a named attribute. -/
  | attribute
  /-- In the braces around the value of a named attribute. -/
  | braces
deriving DecidableEq

/-- Where the children of a node stand. -/
def Setting.below (s : Setting) (n : Node) : Setting :=
  if n.kind = "jsx_attribute" then .attribute
  else if n.kind = "jsx_expression" ∧ s = .attribute then .braces
  else .elsewhere

/-- Parentheses may be put around what is in the braces of an attribute, and nowhere else. -/
def Dressed (s : Setting) (n m : Node) : Prop :=
  m = n ∨ s = .braces ∧ n.isSignificant = true ∧ Wrapped n m

mutual

/-- The second tree is the first with comments added anywhere, and parentheses around values of
attributes. -/
inductive Padded : Setting → Node → Node → Prop
  | node {s : Setting} {n : Node} {ds : List Node} (h : PaddedAll (s.below n) n.children ds) :
      Padded s n { n with children := ds }

/-- The same for lists of children. -/
inductive PaddedAll : Setting → List Node → List Node → Prop
  | nil {s : Setting} : PaddedAll s [] []
  | comment {s : Setting} {cs ds : List Node} {d : Node} (hd : d.IsComment)
      (h : PaddedAll s cs ds) : PaddedAll s cs (d :: ds)
  | child {s : Setting} {cs ds : List Node} {c d e : Node} (hc : Padded s c d)
      (he : Dressed s d e) (h : PaddedAll s cs ds) : PaddedAll s (c :: cs) (e :: ds)

end

/-- What becomes of a child where parentheses are possible. -/
def PaddedChild (s : Setting) (c e : Node) : Prop := ∃ d, Padded s c d ∧ Dressed s d e

section Fields

variable {s : Setting} {n m : Node}

theorem Padded.eq_with (h : Padded s n m) : m = { n with children := m.children } := by
  cases h
  rfl

theorem Padded.kind (h : Padded s n m) : m.kind = n.kind := by rw [h.eq_with]

theorem Padded.start (h : Padded s n m) : m.start = n.start := by rw [h.eq_with]

theorem Padded.role (h : Padded s n m) : m.role = n.role := by rw [h.eq_with]

theorem Padded.named (h : Padded s n m) : m.named = n.named := by rw [h.eq_with]

theorem Padded.missing (h : Padded s n m) : m.missing = n.missing := by rw [h.eq_with]

theorem Padded.text (h : Padded s n m) (src : Source) : m.text src = n.text src := by
  rw [h.eq_with]
  rfl

theorem Padded.children (h : Padded s n m) : PaddedAll (s.below n) n.children m.children := by
  cases h with
  | node h => exact h

theorem Padded.unknown {α : Type} (h : Padded s n m) (src : Source) (expected : Expected) :
    (m.unknown src expected : Except Fault α) = n.unknown src expected := by
  rw [Node.unknown, Node.unknown, h.kind, h.start]

end Fields

section Lists

variable {s : Setting} {n m : Node}

theorem Setting.below_ne_braces (hs : s ≠ .attribute ∨ n.kind ≠ "jsx_expression") :
    s.below n ≠ .braces := by
  unfold Setting.below
  split
  · simp
  · split
    · next h => simp [h.1, h.2] at hs
    · simp

theorem PaddedChild.padded (h : PaddedChild s n m) (hs : s ≠ .braces) : Padded s n m := by
  obtain ⟨d, hd, he⟩ := h
  rcases he with rfl | ⟨hb, -, -⟩
  · exact hd
  · exact absurd hb hs

/-- A test that comments fail, and that parentheses and comments inside do not change, picks the
same children. -/
theorem PaddedAll.filter {p : Node → Bool} (hcomment : ∀ d : Node, d.IsComment → p d = false)
    (hchild : ∀ c e, PaddedChild s c e → p e = p c) {cs ds : List Node} :
    PaddedAll s cs ds → List.Forall₂ (PaddedChild s) (cs.filter p) (ds.filter p)
  | .nil => .nil
  | .comment hd h => by
    rw [List.filter_cons_of_neg (by simp [hcomment _ hd])]
    exact filter hcomment hchild h
  | .child hc he h => by
    have hce : PaddedChild s _ _ := ⟨_, hc, he⟩
    have ih := filter hcomment hchild h
    rw [List.filter_cons, List.filter_cons, hchild _ _ hce]
    split
    · exact .cons hce ih
    · exact ih

/-- Where parentheses are not possible, the picked children are padded themselves. -/
theorem Padded.filter_children (h : Padded s n m) (hs : s.below n ≠ .braces) {p : Node → Bool}
    (hcomment : ∀ d : Node, d.IsComment → p d = false)
    (hchild : ∀ c d, Padded (s.below n) c d → p d = p c) :
    List.Forall₂ (Padded (s.below n)) (n.children.filter p) (m.children.filter p) :=
  (h.children.filter hcomment fun c d hcd => hchild c d (hcd.padded hs)).imp
    fun _ _ hcd => hcd.padded hs

theorem Padded.childrenIn (h : Padded s n m) (hs : s.below n ≠ .braces) (role : String) :
    List.Forall₂ (Padded (s.below n)) (n.childrenIn role) (m.childrenIn role) :=
  h.filter_children hs (fun d hd => by simp [hd.role]) fun c d hcd => by simp [hcd.role]

theorem rel_head? {R : Node → Node → Prop} {cs ds : List Node} (h : List.Forall₂ R cs ds) :
    Option.Rel R cs.head? ds.head? := by
  cases h with
  | nil => exact .none
  | cons hcd _ => exact .some hcd

theorem Padded.child? (h : Padded s n m) (hs : s.below n ≠ .braces) (role : String) :
    Option.Rel (Padded (s.below n)) (n.child? role) (m.child? role) := by
  rw [Node.child?, Node.child?, ← List.head?_filter, ← List.head?_filter]
  exact rel_head? (h.childrenIn hs role)

theorem significant_eq_filter (n : Node) : n.significant = n.children.filter isSignificant := by
  rw [significant, namedChildren, List.filter_filter]
  congr 1
  funext c
  exact Bool.and_comm _ _

theorem IsComment.not_significant (h : n.IsComment) : n.isSignificant = false := by
  simp [isSignificant, h.kind]

theorem IsToken.not_significant (h : n.IsToken) : n.isSignificant = false := by
  simp [isSignificant, h.named]

theorem Wrapped.significant (h : Wrapped n m) (hn : n.isSignificant = true) :
    m.isSignificant = true := by
  cases h with
  | bare => exact hn
  | parens _ kind named => simp [isSignificant, kind, named]

theorem Padded.isSignificant (h : Padded s n m) : m.isSignificant = n.isSignificant := by
  simp [Node.isSignificant, h.named, h.kind]

theorem PaddedChild.isSignificant (h : PaddedChild s n m) : m.isSignificant = n.isSignificant := by
  obtain ⟨d, hd, he⟩ := h
  rw [← hd.isSignificant]
  rcases he with rfl | ⟨-, hsig, hw⟩
  · rfl
  · rw [hsig, hw.significant hsig]

theorem Padded.significant (h : Padded s n m) :
    List.Forall₂ (PaddedChild (s.below n)) n.significant m.significant := by
  rw [significant_eq_filter, significant_eq_filter]
  exact h.children.filter (fun d hd => hd.not_significant) fun c e hce => hce.isSignificant

end Lists

section Expressions

variable {s : Setting} {n m : Node}

theorem unwrap_of_ne (h : n.kind ≠ "parenthesized_expression") : n.unwrap = n := by
  rw [Node.unwrap]
  simp [h]

theorem unwrap_of_single {inner : Node} (h : n.kind = "parenthesized_expression")
    (hs : n.significant = [inner]) : n.unwrap = inner.unwrap := by
  rw [Node.unwrap]
  simp only [h, beq_self_eq_true, if_true]
  split
  · next c hc =>
    obtain rfl : c = inner := by simpa [hc] using hs
    rfl
  · next hne => exact absurd hs (hne inner)

theorem unwrap_of_not_single (hs : ∀ inner, n.significant ≠ [inner]) : n.unwrap = n := by
  rw [Node.unwrap]
  split
  · split
    · next c hc => exact absurd hc (hs c)
    · rfl
  · rfl

/-- Parentheses with comments in them are all stripped. -/
theorem Wrapped.unwrap (h : Wrapped n m) (hn : n.isSignificant = true) : m.unwrap = n.unwrap := by
  induction h with
  | bare => rfl
  | @parens inner outer before after h kind named missing children others ih =>
    have hothers : ∀ c ∈ before ++ after, c.isSignificant = false := by
      intro c hc
      rcases others c hc with hc | hc
      · exact hc.not_significant
      · exact hc.not_significant
    have hbefore : before.filter isSignificant = [] :=
      List.filter_eq_nil_iff.2 fun c hc => by simp [hothers c (List.mem_append_left _ hc)]
    have hafter : after.filter isSignificant = [] :=
      List.filter_eq_nil_iff.2 fun c hc => by simp [hothers c (List.mem_append_right _ hc)]
    have hs : outer.significant = [inner] := by
      rw [significant_eq_filter, children, List.filter_append,
        List.filter_cons_of_pos (h.significant hn), hbefore, hafter]
      rfl
    rw [unwrap_of_single kind hs, ih]

theorem Padded.unwrap (h : Padded s n m) : ∃ t, Padded t n.unwrap m.unwrap := by
  induction n using childInduction generalizing s m with
  | _ n ih =>
    by_cases hk : n.kind = "parenthesized_expression"
    · -- comments do not count, so one significant child stays one
      have hs : s.below n ≠ .braces := Setting.below_ne_braces (Or.inr (by simp [hk]))
      have hall := h.significant
      by_cases hone : ∃ inner, n.significant = [inner]
      · obtain ⟨inner, hi⟩ := hone
        rw [hi] at hall
        obtain ⟨inner', tail, hc, ht, hm⟩ := List.forall₂_cons_left_iff.1 hall
        obtain rfl := List.forall₂_nil_left_iff.1 ht
        rw [unwrap_of_single hk hi, unwrap_of_single (h.kind.trans hk) hm]
        exact ih inner (mem_of_mem_significant (by simp [hi])) (hc.padded hs)
      · have hone' : ∀ inner, m.significant ≠ [inner] := by
          intro inner' hm
          rw [hm] at hall
          obtain ⟨inner, tail, -, ht, hi⟩ := List.forall₂_cons_right_iff.1 hall
          obtain rfl := List.forall₂_nil_right_iff.1 ht
          exact hone ⟨inner, hi⟩
        rw [unwrap_of_not_single fun inner hi => hone ⟨inner, hi⟩, unwrap_of_not_single hone']
        exact ⟨s, h⟩
    · rw [unwrap_of_ne hk, unwrap_of_ne (by rwa [h.kind])]
      exact ⟨s, h⟩

theorem PaddedChild.unwrap (h : PaddedChild s n m) : ∃ t, Padded t n.unwrap m.unwrap := by
  obtain ⟨d, hd, he⟩ := h
  obtain ⟨t, ht⟩ := hd.unwrap
  rcases he with rfl | ⟨-, hsig, hw⟩
  · exact ⟨t, ht⟩
  · exact ⟨t, by rwa [hw.unwrap hsig]⟩

theorem hasOptionalLink_eq (n : Node) : n.hasOptionalLink =
    (n.isLink && ((n.child? "optional_chain").isSome ||
      (n.child? n.spineRole).any hasOptionalLink)) := by
  rw [hasOptionalLink]
  cases n.isLink with
  | false => rfl
  | true =>
    cases (n.child? "optional_chain").isSome with
    | true => rfl
    | false =>
      simp only [if_true, Bool.false_eq_true, if_false, Bool.true_and, Bool.false_or]
      split
      · next left hl => rw [hl, Option.any_some]
      · next hl => rw [hl, Option.any_none]

theorem rel_isSome {R : Node → Node → Prop} {a b : Option Node} (h : Option.Rel R a b) :
    b.isSome = a.isSome := by
  cases h <;> rfl

/-- A test that related nodes pass alike has the same answer on related options. -/
theorem rel_any {R : Node → Node → Prop} {a b : Option Node} (h : Option.Rel R a b)
    {p : Node → Bool} (hp : ∀ c d, a = some c → R c d → p d = p c) : b.any p = a.any p := by
  cases h with
  | none => rfl
  | some hr => exact hp _ _ rfl hr

theorem Padded.isLink (h : Padded s n m) : m.isLink = n.isLink := by
  simp only [Node.isLink, h.kind]

theorem Padded.spineRole (h : Padded s n m) : m.spineRole = n.spineRole := by
  simp only [Node.spineRole, h.kind]

theorem Padded.hasOptionalLink (h : Padded s n m) : m.hasOptionalLink = n.hasOptionalLink := by
  induction n using childInduction generalizing s m with
  | _ n ih =>
    rw [hasOptionalLink_eq, hasOptionalLink_eq, h.isLink, h.spineRole]
    cases hl : n.isLink with
    | false => rfl
    | true =>
      have hs : s.below n ≠ .braces := by
        refine Setting.below_ne_braces (Or.inr ?_)
        intro hk
        simp [Node.isLink, hk] at hl
      rw [rel_isSome (h.child? hs "optional_chain"), rel_any (h.child? hs n.spineRole)]
      intro c d hc hcd
      exact ih c (List.mem_of_find?_eq_some hc) hcd

theorem Padded.isLiteral (h : Padded s n m) : m.isLiteral = n.isLiteral := by
  simp only [Node.isLiteral, h.kind]

theorem Padded.bareKind (h : Padded s n m) : m.bareKind = n.bareKind := by
  by_cases hk : n.kind = "jsx_expression"
  · -- the kind of braces does not depend on what is in them
    have hk' := h.kind.trans hk
    simp [Node.bareKind, Node.isLiteral, Node.isLink, hk, hk']
  · have hs : s.below n ≠ .braces := Setting.below_ne_braces (Or.inr hk)
    have hkind (role : String) (p : String → Bool) :
        (m.child? role).any (fun c => p c.kind) = (n.child? role).any (fun c => p c.kind) :=
      rel_any (h.child? hs role) fun c d _ hcd => by rw [hcd.kind]
    have hplain : m.plainLinkKind = n.plainLinkKind := by
      simp only [plainLinkKind, h.kind, hkind "function" (· == "import"),
        hkind "arguments" (· == "template_string")]
    have hopen : n.kind = "jsx_element" →
        (m.child? "open_tag").any (fun t => (t.child? "name").isNone) =
          (n.child? "open_tag").any (fun t => (t.child? "name").isNone) := by
      intro he
      refine rel_any (h.child? hs "open_tag") ?_
      intro c d _ hcd
      have hbelow : s.below n = .elsewhere := by simp [Setting.below, he]
      rw [hbelow] at hcd
      rw [← Option.not_isSome, ← Option.not_isSome,
        rel_isSome (hcd.child? (Setting.below_ne_braces (Or.inl (by simp))) "name")]
    simp only [Node.bareKind, h.isLiteral, h.isLink, h.hasOptionalLink, hplain, h.kind,
      hkind "operator" fun k => k == "&&" || k == "||" || k == "??"]
    by_cases he : n.kind = "jsx_element"
    · rw [hopen he]
    · simp [he]

theorem Padded.expressionKind (h : Padded s n m) : m.expressionKind = n.expressionKind := by
  obtain ⟨t, ht⟩ := h.unwrap
  exact ht.bareKind

end Expressions

section Values

variable {s : Setting} {n m : Node} (src : Source)

theorem stringPart_of_comment (h : n.IsComment) : n.stringPart src = .ok [] := by
  simp [stringPart, h.kind]

theorem Padded.stringPart (h : Padded s n m) : m.stringPart src = n.stringPart src := by
  simp only [Node.stringPart, h.kind, h.text]

theorem map_flatten_mapM_cons {α β ε : Type} (f : α → Except ε (List β)) (a : α) (as : List α) :
    ((a :: as).mapM f).map List.flatten =
      f a >>= fun t => ((as.mapM f).map List.flatten).map (t ++ ·) := by
  rw [List.mapM_cons]
  cases f a with
  | error e => rfl
  | ok t => cases as.mapM f <;> rfl

/-- Comments add nothing to the parts of a string. -/
theorem PaddedAll.mapM_stringPart (hs : s ≠ .braces) {cs ds : List Node} : PaddedAll s cs ds →
    (ds.mapM (stringPart src)).map List.flatten = (cs.mapM (stringPart src)).map List.flatten
  | .nil => rfl
  | .comment hd h => by
    rw [map_flatten_mapM_cons, stringPart_of_comment src hd, mapM_stringPart hs h]
    cases (List.mapM (stringPart src) cs).map List.flatten <;> rfl
  | .child hc he h => by
    have hce := PaddedChild.padded ⟨_, hc, he⟩ hs
    rw [map_flatten_mapM_cons, map_flatten_mapM_cons, hce.stringPart, mapM_stringPart hs h]

theorem Padded.stringValue (h : Padded s n m) (hk : n.kind = "string") :
    m.stringValue src = n.stringValue src := by
  have hs : s.below n ≠ .braces := Setting.below_ne_braces (Or.inr (by simp [hk]))
  exact h.children.mapM_stringPart src hs

theorem Padded.literalValue (h : Padded s n m) (markup : Bool) :
    m.literalValue src markup = n.literalValue src markup := by
  by_cases hk : n.kind = "string"
  · simp only [Node.literalValue, attributeString, h.kind, h.text, h.unknown, h.stringValue src hk]
  · simp only [Node.literalValue, h.kind, h.text, h.unknown, beq_iff_eq, hk, if_false]

theorem Padded.bracedValue (h : Padded s n m) : m.bracedValue src = n.bracedValue src := by
  have hall := h.significant
  rw [Node.bracedValue, Node.bracedValue]
  revert hall
  generalize n.significant = cs, m.significant = ds
  intro hall
  cases hall with
  | nil => rfl
  | cons hcd _ =>
    obtain ⟨t, ht⟩ := hcd.unwrap
    simp only [ht.isLiteral, ht.literalValue src, ht.expressionKind]

theorem attributeValue_of_rel {a b : Option Node} (h : Option.Rel (Padded s) a b) :
    attributeValue src b = attributeValue src a := by
  cases h with
  | none => rfl
  | some h =>
    simp only [attributeValue, h.kind, h.literalValue src, h.bracedValue src, h.unknown]

theorem Padded.namedAttribute (h : Padded s n m) (hs : s.below n ≠ .braces) :
    m.namedAttribute src = n.namedAttribute src := by
  have hall := h.significant.imp fun _ _ hcd => hcd.padded hs
  rw [Node.namedAttribute, Node.namedAttribute]
  revert hall
  generalize n.significant = cs, m.significant = ds
  intro hall
  cases hall with
  | nil => rfl
  | cons hcd htail => simp only [hcd.text, attributeValue_of_rel src (rel_head? htail)]

theorem Padded.isSpread (h : Padded s n m) (hs : s.below n ≠ .braces) : m.isSpread = n.isSpread := by
  have hall := h.significant.imp fun _ _ hcd => hcd.padded hs
  rw [Node.isSpread, Node.isSpread, h.kind]
  revert hall
  generalize n.significant = cs, m.significant = ds
  intro hall
  cases hall with
  | nil => rfl
  | cons hcd htail =>
    cases htail with
    | nil => simp only [hcd.kind]
    | cons _ _ => rfl

theorem Padded.addAttribute (h : Padded .elsewhere n m) (use : Instance) :
    m.addAttribute src use = n.addAttribute src use := by
  have hs : Setting.below .elsewhere n ≠ .braces := Setting.below_ne_braces (Or.inl (by simp))
  simp only [Node.addAttribute, h.kind, h.namedAttribute src hs, h.isSpread hs, h.unknown]

end Values

section Tags

variable {s : Setting} {n m : Node}

theorem Padded.isTag (h : Padded s n m) : m.isTag = n.isTag := by
  simp only [Node.isTag, h.kind]

theorem below_of_isTag (ht : n.isTag = true) : s.below n = .elsewhere := by
  rcases isTag_iff.1 ht with hk | hk <;> simp [Setting.below, hk]

theorem Padded.use (h : Padded s n m) (ht : n.isTag = true) (src : Source) (file : String) :
    m.use src file = n.use src file := by
  have hb : s.below n = .elsewhere := below_of_isTag ht
  have hs : s.below n ≠ .braces := by simp [hb]
  have hattributes := h.childrenIn hs "attribute"
  have hname := h.child? hs "name"
  rw [hb] at hattributes
  rw [Node.use, Node.use]
  revert hname
  generalize n.child? "name" = a, m.child? "name" = b
  intro hname
  cases hname with
  | none => rfl
  | some hcd =>
    simp only [hcd.start]
    exact (Alike.foldlM hattributes (fun u c d hcd => (hcd.addAttribute src u).symm) _).symm

theorem qualifiedName_eq (src : Source) (n : Node) : n.qualifiedName src =
    if n.isNameLeaf then .ok (String.ofList (n.text src))
    else if n.isNameChain then
      match n.child? "object", n.child? "property" with
      | some object, some property =>
        do return (← object.qualifiedName src) ++ "." ++ (← property.qualifiedName src)
      | _, _ => n.unknown src .name
    else n.unknown src .name := by
  rw [qualifiedName]
  split
  · rfl
  · split
    · split
      · next ho hp => simp only [ho, hp]
      · next hne =>
        split
        · next object property ho hp => exact absurd hp (hne object property ho)
        · rfl
    · rfl

theorem Padded.qualifiedName (h : Padded s n m) (src : Source) :
    m.qualifiedName src = n.qualifiedName src := by
  induction n using childInduction generalizing s m with
  | _ n ih =>
    have hleaf : m.isNameLeaf = n.isNameLeaf := by simp only [isNameLeaf, h.kind]
    have hchain : m.isNameChain = n.isNameChain := by simp only [isNameChain, h.kind]
    rw [qualifiedName_eq, qualifiedName_eq, hleaf, hchain, h.text, h.unknown]
    cases hc : n.isNameChain with
    | false => rfl
    | true =>
      have hs : s.below n ≠ .braces := by
        refine Setting.below_ne_braces (Or.inr ?_)
        intro hk
        simp [isNameChain, hk] at hc
      have hobject := h.child? hs "object"
      have hproperty := h.child? hs "property"
      have hin (role : String) {c : Node} (hrole : n.child? role = some c) : c ∈ n.children :=
        List.mem_of_find?_eq_some hrole
      have ho : ∀ c, n.child? "object" = some c → c ∈ n.children := fun c => hin "object"
      have hp : ∀ c, n.child? "property" = some c → c ∈ n.children := fun c => hin "property"
      -- the four options are named to split them by the relation between them
      revert hobject hproperty ho hp
      generalize n.child? "object" = a, m.child? "object" = a'
      generalize n.child? "property" = b, m.child? "property" = b'
      intro hobject hproperty ho hp
      cases hobject with
      | none => rfl
      | some hco =>
        cases hproperty with
        | none => rfl
        | some hcp => simp only [ih _ (ho _ rfl) hco, ih _ (hp _ rfl) hcp]

/-- A tag is accepted under the same name, with the same use, as before. -/
theorem Padded.acceptedUse? (h : Padded s n m) (ht : n.isTag = true) (config : ScanConfig)
    (imports : ImportTable) (f : SourceFile) {name name' : Node} {t : Setting}
    (hname : Padded t name name') : m.acceptedUse? config imports f name' =
      n.acceptedUse? config imports f name := by
  simp only [Node.acceptedUse?, hname.qualifiedName, h.use ht]

end Tags

end Node

end MarkupCensus
