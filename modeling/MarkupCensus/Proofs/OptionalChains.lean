import MarkupCensus.Proofs.Padding

namespace MarkupCensus

namespace Node

/-- The links of a chain from its right end on: a link itself, and those that the object of a member
or the callee of a call leads to. Nodes of any other kind, parentheses among them, end the chain. -/
inductive OnSpine : Node → Node → Prop
  | here {n : Node} (h : n.isLink = true) : OnSpine n n
  | object {n left l : Node} (h : n.kind = "member_expression" ∨ n.kind = "subscript_expression")
      (hleft : n.child? "object" = some left) (hl : OnSpine left l) : OnSpine n l
  | callee {n left l : Node} (h : n.kind = "call_expression")
      (hleft : n.child? "function" = some left) (hl : OnSpine left l) : OnSpine n l

/-- Whether a `?.` stands among the parts of a link in the role that the grammar has for it. -/
def HasMark (n : Node) : Prop := ∃ c ∈ n.children, c.role = some "optional_chain"

/-- Whether a link has a `?.`, in its role or as a bare token. -/
def IsOptional (n : Node) : Prop := n.HasMark ∨ ∃ c ∈ n.children, c.kind = "?."

/-- Some links of the chain are optional, and bare tokens alone make them so. -/
structure BareMarks (n : Node) : Prop where
  optional : ∃ l, OnSpine n l ∧ l.IsOptional
  unmarked : ∀ l, OnSpine n l → ¬ l.HasMark

section Spine

variable {n l : Node}

theorem isLink_iff : n.isLink = true ↔
    (n.kind = "member_expression" ∨ n.kind = "subscript_expression") ∨
      n.kind = "call_expression" := by
  simp [isLink]

theorem OnSpine.isLink (h : OnSpine n l) : n.isLink = true := by
  cases h with
  | here h => exact h
  | object h => exact isLink_iff.2 (Or.inl h)
  | callee h => exact isLink_iff.2 (Or.inr h)

theorem spineRole_eq_object (h : n.kind = "member_expression" ∨ n.kind = "subscript_expression") :
    n.spineRole = "object" := by
  rcases h with h | h <;> simp [spineRole, h]

theorem spineRole_eq_function (h : n.kind = "call_expression") : n.spineRole = "function" := by
  simp [spineRole, h]

/-- A chain goes on through one role, which the kind of its last link decides. -/
theorem onSpine_iff (hn : n.isLink = true) : OnSpine n l ↔
    l = n ∨ ∃ left, n.child? n.spineRole = some left ∧ OnSpine left l := by
  constructor
  · intro h
    cases h with
    | here => exact Or.inl rfl
    | object h hleft hl => exact Or.inr ⟨_, spineRole_eq_object h ▸ hleft, hl⟩
    | callee h hleft hl => exact Or.inr ⟨_, spineRole_eq_function h ▸ hleft, hl⟩
  · rintro (rfl | ⟨left, hleft, hl⟩)
    · exact .here hn
    · rcases isLink_iff.1 hn with h | h
      · exact .object h (spineRole_eq_object h ▸ hleft) hl
      · exact .callee h (spineRole_eq_function h ▸ hleft) hl

theorem hasMark_iff : n.HasMark ↔ (n.child? "optional_chain").isSome = true := by
  simp [HasMark, child?]

theorem hasOptionalLink_iff (n : Node) :
    n.hasOptionalLink = true ↔ ∃ l, OnSpine n l ∧ l.HasMark := by
  induction n using childInduction with
  | _ n ih =>
    rw [hasOptionalLink_eq, Bool.and_eq_true, Bool.or_eq_true, Option.any_eq_true, ← hasMark_iff]
    -- what is left of a link is one of its children, so the induction covers the rest of the spine
    constructor
    · rintro ⟨hn, hmark | ⟨left, hleft, hopt⟩⟩
      · exact ⟨n, .here hn, hmark⟩
      · obtain ⟨l, hl, hmark⟩ := (ih left (List.mem_of_find?_eq_some hleft)).1 hopt
        exact ⟨l, (onSpine_iff hn).2 (Or.inr ⟨left, hleft, hl⟩), hmark⟩
    · rintro ⟨l, hl, hmark⟩
      refine ⟨hl.isLink, ?_⟩
      rcases (onSpine_iff hl.isLink).1 hl with rfl | ⟨left, hleft, hl⟩
      · exact Or.inl hmark
      · exact Or.inr ⟨left, hleft,
          (ih left (List.mem_of_find?_eq_some hleft)).2 ⟨l, hl, hmark⟩⟩

end Spine

section Kinds

variable {n : Node}

theorem plainLinkKind_ne_chain (n : Node) : n.plainLinkKind ≠ "ChainExpression" := by
  unfold plainLinkKind
  split
  · decide
  · split
    · decide
    · split <;> decide

theorem bareKind_of_isLink (h : n.isLink = true) :
    n.bareKind = if n.hasOptionalLink then "ChainExpression" else n.plainLinkKind := by
  have hliteral : n.isLiteral = false := by
    rcases isLink_iff.1 h with (hk | hk) | hk <;> simp [isLiteral, hk]
  rw [bareKind, hliteral, h]
  rfl

/-- The first two letters of a spelled kind already tell it from the kind of a chain. -/
theorem spelledKind_ne_chain {kind : String}
    (h : ((Split.split '_' kind.toList).flatMap Case.capitalize).take 2 ≠ ['C', 'h']) :
    spelledKind kind ≠ "ChainExpression" := by
  intro heq
  apply h
  have hchars := congrArg String.toList heq
  rw [spelledKind, String.toList_ofList] at hchars
  rw [hchars]
  rfl

theorem spelledKind_ne_chain_of_isLink (h : n.isLink = true) :
    spelledKind n.kind ≠ "ChainExpression" := by
  rcases isLink_iff.1 h with (hk | hk) | hk
  all_goals
    rw [hk]
    exact spelledKind_ne_chain (by decide +kernel)

theorem spelledKind_ne_chain_of_isLiteral (h : n.isLiteral = true) :
    spelledKind n.kind ≠ "ChainExpression" := by
  simp only [isLiteral, Bool.or_eq_true, beq_iff_eq, or_assoc] at h
  rcases h with hk | hk | hk | hk | hk | hk
  all_goals
    rw [hk]
    exact spelledKind_ne_chain (by decide +kernel)

theorem fixedKind?_ne_chain {kind fixed : String} (h : fixedKind? kind = some fixed) :
    fixed ≠ "ChainExpression" ∧ spelledKind kind ≠ "ChainExpression" := by
  unfold fixedKind? at h
  -- one goal for each entry of the table, with its two spellings
  split at h <;> cases h
  all_goals exact ⟨by decide, spelledKind_ne_chain (by decide +kernel)⟩

/-- What is no link has the kind of a chain only by its own spelling. -/
theorem bareKind_eq_chain_of_not_isLink (h : n.isLink = false) :
    n.bareKind = "ChainExpression" ↔ spelledKind n.kind = "ChainExpression" := by
  rw [bareKind, h]
  split
  · next hliteral => simpa using spelledKind_ne_chain_of_isLiteral hliteral
  simp only [Bool.false_eq_true, if_false, beq_iff_eq]
  split
  · next hk =>
    have hspelled : spelledKind "binary_expression" ≠ "ChainExpression" :=
      spelledKind_ne_chain (by decide +kernel)
    rw [hk]
    split <;> simpa using hspelled
  split
  · next hk =>
    have hspelled : spelledKind "jsx_element" ≠ "ChainExpression" :=
      spelledKind_ne_chain (by decide +kernel)
    rw [hk]
    split <;> simpa using hspelled
  cases hfixed : fixedKind? n.kind with
  | none => rfl
  | some fixed =>
    obtain ⟨hne, hspelled⟩ := fixedKind?_ne_chain hfixed
    exact iff_of_false hne hspelled

end Kinds

/-- A link without a mark on its spine has the kind it would have without any `?.`. -/
theorem bareKind_of_unmarked {n : Node} (hn : n.isLink = true)
    (h : ∀ l, OnSpine n l → ¬ l.HasMark) : n.bareKind = n.plainLinkKind := by
  have hopt : ¬ n.hasOptionalLink = true := by
    intro hopt
    obtain ⟨l, hl, hmark⟩ := (hasOptionalLink_iff n).1 hopt
    exact h l hl hmark
  rw [bareKind_of_isLink hn, if_neg hopt]

theorem bareKind_eq_chain_iff (n : Node) : n.bareKind = "ChainExpression" ↔
    (∃ l, OnSpine n l ∧ l.HasMark) ∨ spelledKind n.kind = "ChainExpression" := by
  cases hn : n.isLink with
  | false =>
    have hspine : ¬ ∃ l, OnSpine n l ∧ l.HasMark := by
      rintro ⟨l, hl, -⟩
      simp [hl.isLink] at hn
    rw [bareKind_eq_chain_of_not_isLink hn, or_iff_right hspine]
  | true =>
    rw [or_iff_left (spelledKind_ne_chain_of_isLink hn)]
    by_cases hmark : ∃ l, OnSpine n l ∧ l.HasMark
    · rw [bareKind_of_isLink hn, (hasOptionalLink_iff n).2 hmark]
      exact iff_of_true rfl hmark
    · have hnone : ∀ l, OnSpine n l → ¬ l.HasMark := fun l hl hm => hmark ⟨l, hl, hm⟩
      rw [bareKind_of_unmarked hn hnone]
      exact iff_of_false (plainLinkKind_ne_chain n) hmark

theorem BareMarks.isLink {n : Node} (h : n.BareMarks) : n.isLink = true := by
  obtain ⟨l, hl, -⟩ := h.optional
  exact hl.isLink

/-- An expression is a chain exactly if some link of its spine has its `?.` in the role of a mark,
unless a kind of another sort is spelled like that of a chain. So chains are the links with an
optional link on their spine but for those with bare tokens only, such as optional calls: these
have the kind they would have without any `?.`. -/
theorem expressionKind_eq_chain_iff (n : Node) :
    (n.expressionKind = "ChainExpression" ↔
      (∃ l, OnSpine n.unwrap l ∧ l.HasMark) ∨ spelledKind n.unwrap.kind = "ChainExpression") ∧
    (n.unwrap.isLink = true →
      ((n.expressionKind = "ChainExpression" ↔ ∃ l, OnSpine n.unwrap l ∧ l.IsOptional) ↔
        ¬ n.unwrap.BareMarks)) ∧
    (n.unwrap.BareMarks → n.expressionKind = n.unwrap.plainLinkKind) := by
  have hkind := bareKind_eq_chain_iff n.unwrap
  refine ⟨hkind, ?_, ?_⟩
  · intro hn
    rw [expressionKind, hkind, or_iff_left (spelledKind_ne_chain_of_isLink hn)]
    -- every mark makes its link optional, so only the bare tokens can tell the two sides apart
    constructor
    · intro hiff hbare
      obtain ⟨l, hl, hmark⟩ := hiff.2 hbare.optional
      exact hbare.unmarked l hl hmark
    · intro hbare
      constructor
      · rintro ⟨l, hl, hmark⟩
        exact ⟨l, hl, Or.inl hmark⟩
      · intro hoptional
        by_contra hnone
        exact hbare ⟨hoptional, fun l hl hmark => hnone ⟨l, hl, hmark⟩⟩
  · intro hbare
    exact bareKind_of_unmarked hbare.isLink hbare.unmarked

end Node

namespace Sample

def part (kind : String) (start stop : Nat) (role : String) : Node :=
  { kind := kind, start := start, stop := stop, role := some role }

/-- The text `f?.()`. -/
def optionalCall : Node :=
  { kind := "call_expression", start := 0, stop := 5
    children := [part "identifier" 0 1 "function",
      { kind := "?.", start := 1, stop := 3, named := false }, part "arguments" 3 5 "arguments"] }

/-- The text `a?.b`, which may stand in parentheses, as a part of a longer expression. -/
def optionalMember (start : Nat) (role : Option String) : Node :=
  { kind := "member_expression", start := start, stop := start + 4, role := role
    children := [part "identifier" start (start + 1) "object",
      part "optional_chain" (start + 1) (start + 3) "optional_chain",
      part "property_identifier" (start + 3) (start + 4) "property"] }

/-- The text `a?.b()`. -/
def callOfOptional : Node :=
  { kind := "call_expression", start := 0, stop := 6
    children := [optionalMember 0 (some "function"), part "arguments" 4 6 "arguments"] }

/-- The text `(a?.b).c`. -/
def memberOfParens : Node :=
  { kind := "member_expression", start := 0, stop := 8
    children :=
      [{ kind := "parenthesized_expression", start := 0, stop := 6, role := some "object"
         children := [optionalMember 1 none] },
       part "property_identifier" 7 8 "property"] }

/-- A name is no link, so the spine of the call is the call alone. -/
theorem bareMarks_optionalCall : optionalCall.BareMarks where
  optional := by
    refine ⟨optionalCall, .here rfl, Or.inr ?_⟩
    exact ⟨{ kind := "?.", start := 1, stop := 3, named := false }, by simp [optionalCall], rfl⟩
  unmarked := by
    intro l hl
    rcases (Node.onSpine_iff rfl).1 hl with rfl | ⟨left, hleft, hl⟩
    · rw [Node.hasMark_iff]
      decide
    · obtain rfl : part "identifier" 0 1 "function" = left := Option.some.inj hleft
      exact absurd hl.isLink (by decide)

theorem not_hasMark_on_memberOfParens :
    ¬ ∃ l, Node.OnSpine memberOfParens l ∧ l.HasMark := by
  rintro ⟨l, hl, hmark⟩
  rcases (Node.onSpine_iff rfl).1 hl with rfl | ⟨left, hleft, hl⟩
  · rw [Node.hasMark_iff] at hmark
    exact absurd hmark (by decide)
  · -- the object is in parentheses, which are no link
    obtain rfl := Option.some.inj hleft
    exact absurd hl.isLink (by decide)

end Sample

/-- An optional call keeps the kind of a call. A `?.` further down the spine makes a chain, and one
in parentheses does not. -/
theorem Node.expressionKind_eq_chain_iff_links :
    (Sample.optionalCall.BareMarks ∧ Sample.optionalCall.expressionKind = "CallExpression" ∧
      ¬ (Sample.optionalCall.expressionKind = "ChainExpression" ↔
        ∃ l, OnSpine Sample.optionalCall l ∧ l.IsOptional)) ∧
    Sample.callOfOptional.expressionKind = "ChainExpression" ∧
    Sample.memberOfParens.expressionKind ≠ "ChainExpression" := by
  refine ⟨⟨Sample.bareMarks_optionalCall, ?_, ?_⟩, ?_, ?_⟩
  · have hkind := (expressionKind_eq_chain_iff Sample.optionalCall).2.2
    rw [unwrap_of_ne (by decide)] at hkind
    rw [hkind Sample.bareMarks_optionalCall]
    rfl
  · have hiff := (expressionKind_eq_chain_iff Sample.optionalCall).2.1
    rw [unwrap_of_ne (by decide)] at hiff
    exact fun h => (hiff rfl).1 h Sample.bareMarks_optionalCall
  · have hkind := (expressionKind_eq_chain_iff Sample.callOfOptional).1
    rw [unwrap_of_ne (by decide)] at hkind
    refine hkind.2 (Or.inl ⟨Sample.optionalMember 0 (some "function"), ?_, ?_⟩)
    · exact .callee rfl rfl (.here rfl)
    · rw [hasMark_iff]
      decide
  · have hkind := (expressionKind_eq_chain_iff Sample.memberOfParens).1
    rw [unwrap_of_ne (by decide)] at hkind
    rw [ne_eq, hkind, not_or]
    exact ⟨Sample.not_hasMark_on_memberOfParens, spelledKind_ne_chain_of_isLink rfl⟩

end MarkupCensus
