import MarkupCensus.Grammar.Token
import MarkupCensus.Proofs.Encoding
import MarkupCensus.Proofs.Trivia

namespace MarkupCensus

namespace Grammar

/-- White space and comments, as they may stand between two tokens. -/
inductive IsTrivia : List Char → Prop
  | nil : IsTrivia []
  | space {c : Char} {rest : List Char} (hc : isSpace c = true) (h : IsTrivia rest) :
      IsTrivia (c :: rest)
  | line {body rest : List Char} (hbody : ∀ c ∈ body, endsLine c = false) (h : IsTrivia rest) :
      IsTrivia ('/' :: '/' :: (body ++ rest))
  | block {body rest : List Char} (hbody : ¬['*', '/'] <:+: body) (h : IsTrivia rest) :
      IsTrivia ('/' :: '*' :: (body ++ '*' :: '/' :: rest))

/-- The characters of identifiers in markup, hyphens and those of escapes included. -/
def isIdentifierChar (c : Char) : Bool :=
  isNameChar c || c == '-' || c == '\\' || c == '\x7b' || c == '\x7d'

/-- What tells trivia from mere white space: the slash of a comment, or a separator that does not
count as white space. -/
def isMark (c : Char) : Bool := c == '/' || (isSpace c && !Blank.isBlank c)

theorem isBlank_of_isMark {c : Char} (h : isMark c = true) : Blank.isBlank c = false := by
  simp only [isMark, Bool.or_eq_true, beq_iff_eq, Bool.and_eq_true, Bool.not_eq_true'] at h
  rcases h with rfl | ⟨-, h⟩
  · decide
  · exact h

/-- The next-line control is the only white space that an identifier can hold. -/
theorem isBlank_of_isIdentifierChar {c : Char} (h : isIdentifierChar c = true)
    (hc : c.toNat ≠ 0x85) : Blank.isBlank c = false := by
  simp only [isIdentifierChar, Bool.or_eq_true, beq_iff_eq] at h
  rcases h with (((h | rfl) | rfl) | rfl) | rfl
  · simp only [isNameChar, Bool.not_eq_true', Bool.or_eq_false_iff, decide_eq_false_iff_not,
      isSpace, Bool.and_eq_false_iff, beq_eq_false_iff_ne] at h
    simp only [Blank.isBlank, Blank.isBlankCode, Bool.or_eq_false_iff, Bool.and_eq_false_iff,
      decide_eq_false_iff_not, beq_eq_false_iff_ne]
    omega
  all_goals decide

theorem squeeze_append (as bs : List Char) :
    Blank.squeeze (as ++ bs) = Blank.squeeze as ++ Blank.squeeze bs := List.filter_append as bs

theorem squeeze_eq_self {cs : List Char} (h : ∀ c ∈ cs, Blank.isBlank c = false) :
    Blank.squeeze cs = cs := List.filter_eq_self.2 fun c hc => by simp [h c hc]

theorem IsTrivia.squeeze_eq_nil {cs : List Char} (h : IsTrivia cs)
    (hm : ∀ c ∈ cs, isMark c = false) : Blank.squeeze cs = [] := by
  induction h with
  | nil => rfl
  | @space c rest hc _ ih =>
    have hblank : Blank.isBlank c = true := by
      have hunmarked := hm c List.mem_cons_self
      simp only [isMark, hc, Bool.true_and, Bool.or_eq_false_iff, Bool.not_eq_false'] at hunmarked
      exact hunmarked.2
    have hrest := ih fun d hd => hm d (List.mem_cons_of_mem c hd)
    rw [Blank.squeeze, List.filter_cons_of_neg (by simp [hblank])]
    exact hrest
  | line _ _ _ => exact absurd (hm '/' List.mem_cons_self) (by decide)
  | block _ _ _ => exact absurd (hm '/' List.mem_cons_self) (by decide)

/-- Marks outlast the removal of white space. -/
theorem any_isMark_squeeze (cs : List Char) : (Blank.squeeze cs).any isMark = cs.any isMark := by
  rw [Blank.squeeze, List.any_filter]
  congr 1
  funext c
  cases h : isMark c with
  | false => simp
  | true => simp [isBlank_of_isMark h]

end Grammar

namespace Node

open Grammar

/-- The name of the opening or the closing tag of an element. -/
def nameIn? (role : String) (n : Node) : Option Node := (n.child? role).bind (·.child? "name")

/-- What the name of the opening or the closing tag resolves to, if there is one. -/
def resolvedIn? (src : Source) (role : String) (n : Node) : Option (Except Fault String) :=
  (n.nameIn? role).map (·.qualifiedName src)

/-- A name as the grammar has it: an identifier, or a chain of names with a dot between them and
trivia around the dot. -/
inductive Spelled (src : Source) : Node → Prop
  | leaf {n : Node} (hkind : n.isNameLeaf = true)
      (hchars : ∀ c ∈ n.text src, isIdentifierChar c = true) : Spelled src n
  | chain {n object property : Node} {before after : List Char} (hkind : n.isNameChain = true)
      (hobject : n.child? "object" = some object) (hproperty : n.child? "property" = some property)
      (ho : Spelled src object) (hp : Spelled src property)
      (hbefore : IsTrivia before) (hafter : IsTrivia after)
      (htext : n.text src = object.text src ++ before ++ '.' :: (after ++ property.text src)) :
      Spelled src n

/-- The text of a node is well formed, no comment stands in it, and nothing that only one of the grammar
and the comparison of names takes for white space. -/
def isPlain (src : Source) (n : Node) : Bool :=
  (n.strictText src).toBool && (n.text src).all fun c => !isMark c && c.toNat != 0x85

/-- There is a comment, or a separator that does not count as white space, in the text of a node. -/
def isMarked (src : Source) (n : Node) : Bool := (n.text src).any isMark

variable {src : Source}

theorem strictText_eq_of_toBool {n : Node} (h : (n.strictText src).toBool = true) :
    n.strictText src = .ok (n.text src) := by
  cases hread : n.strictText src with
  | error run =>
    rw [hread] at h
    cases h
  | ok cs => rw [Node.text, Utf8.decode_of_decodeStrict hread]

theorem isPlain_iff {n : Node} : n.isPlain src = true ↔ n.strictText src = .ok (n.text src) ∧
    ∀ c ∈ n.text src, isMark c = false ∧ c.toNat ≠ 0x85 := by
  have hread : (n.strictText src).toBool = true ↔ n.strictText src = .ok (n.text src) :=
    ⟨strictText_eq_of_toBool, fun h => by rw [h]; rfl⟩
  rw [isPlain, Bool.and_eq_true, hread]
  simp

theorem qualifiedName_of_isNameChain {n object property : Node} {a b : String}
    (hkind : n.isNameChain = true) (hobject : n.child? "object" = some object)
    (hproperty : n.child? "property" = some property) (ha : object.qualifiedName src = .ok a)
    (hb : property.qualifiedName src = .ok b) : n.qualifiedName src = .ok (a ++ "." ++ b) := by
  have hleaf : n.isNameLeaf = false := by
    simp only [isNameChain, Bool.or_eq_true, beq_iff_eq] at hkind
    rcases hkind with hk | hk <;> simp [isNameLeaf, hk]
  rw [qualifiedName_eq, hleaf, hkind, hobject, hproperty]
  simp [ha, hb, bind, Except.bind, pure, Except.pure]

/-- A plain name resolves to its text without white space. -/
theorem Spelled.qualifiedName_eq {n : Node} (h : n.Spelled src)
    (hplain : ∀ c ∈ n.text src, isMark c = false ∧ c.toNat ≠ 0x85) :
    n.qualifiedName src = .ok (String.ofList (Blank.squeeze (n.text src))) := by
  induction h with
  | @leaf n hkind hchars =>
    have hself : Blank.squeeze (n.text src) = n.text src := squeeze_eq_self fun c hc =>
      isBlank_of_isIdentifierChar (hchars c hc) (hplain c hc).2
    rw [Node.qualifiedName_eq, if_pos hkind, hself]
  | @chain n object property before after hkind hobject hproperty _ _ hbefore hafter htext iho ihp =>
    have hchars := hplain
    rw [htext] at hchars
    have hbeforeNil : Blank.squeeze before = [] :=
      hbefore.squeeze_eq_nil fun c hc => (hchars c (by simp [hc])).1
    have hafterNil : Blank.squeeze after = [] :=
      hafter.squeeze_eq_nil fun c hc => (hchars c (by simp [hc])).1
    have hsqueeze : Blank.squeeze (n.text src) =
        Blank.squeeze (object.text src) ++ '.' :: Blank.squeeze (property.text src) := by
      have hdot : Blank.squeeze ['.'] = ['.'] := by decide
      rw [htext, ← List.singleton_append, squeeze_append, squeeze_append, squeeze_append,
        squeeze_append, hbeforeNil, hafterNil, hdot]
      simp
    have hobjectName := iho fun c hc => hchars c (by simp [hc])
    have hpropertyName := ihp fun c hc => hchars c (by simp [hc])
    rw [qualifiedName_of_isNameChain hkind hobject hproperty hobjectName hpropertyName, hsqueeze]
    congr 1
    apply String.toList_inj.1
    simp

theorem tagName_of_nameIn? {n name : Node} {role : String} (h : n.nameIn? role = some name) :
    tagName src (n.child? role) =
      (name.strictText src).map fun cs => some (String.ofList (Blank.squeeze cs)) := by
  rw [nameIn?] at h
  rw [tagName, h]

theorem tagName_of_nameIn?_eq_none {n : Node} {role : String} (h : n.nameIn? role = none) :
    tagName src (n.child? role) = .ok none := by
  rw [nameIn?] at h
  rw [tagName, h]

/-- The verdict of the check on a tree without errors: the first element in pre-order whose tags
differ is reported. -/
theorem check_eq_find? {root : Node} (herror : root.hasError = false) : root.check src =
    match (root.nodes.find? (isUnbalanced src)).bind (imbalance? src) with
    | none => .ok root
    | some failure => .error failure := by
  rw [check, herror, unbalanced?, searchStack_all]
  cases (root.nodes.find? (isUnbalanced src)).bind (imbalance? src) <;> rfl

theorem check_ne_ok_of_isUnbalanced {root n : Node} (herror : root.hasError = false)
    (hn : n ∈ root.nodes) (h : n.isUnbalanced src = true) : root.check src ≠ .ok root := by
  rw [check_eq_find? herror]
  cases hfind : root.nodes.find? (isUnbalanced src) with
  | none => exact absurd h (List.find?_eq_none.1 hfind n hn)
  | some m =>
    have hm : (m.imbalance? src).isSome = true := List.find?_some (p := isUnbalanced src) hfind
    obtain ⟨failure, hfailure⟩ := Option.isSome_iff_exists.1 hm
    simp [hfailure]

/-- All names in the tags of an element are spelled as the grammar has them. -/
def TagsSpelled (src : Source) (n : Node) : Prop :=
  ∀ role, ∀ name ∈ n.nameIn? role, name.Spelled src

/-- All names in the tags of an element are plain. -/
def TagsPlain (src : Source) (n : Node) : Prop :=
  ∀ role, ∀ name ∈ n.nameIn? role, name.isPlain src = true

/-- Plain names are compared by what they resolve to. -/
theorem TagsSpelled.exists_tagName {n : Node} (h : n.TagsSpelled src) (hplain : n.TagsPlain src)
    (role : String) : ∃ name : Option String, tagName src (n.child? role) = .ok name ∧
      n.resolvedIn? src role = name.map .ok := by
  rw [resolvedIn?]
  cases hname : n.nameIn? role with
  | none => exact ⟨none, tagName_of_nameIn?_eq_none hname, rfl⟩
  | some name =>
    obtain ⟨hread, hchars⟩ := isPlain_iff.1 (hplain role name hname)
    refine ⟨some (String.ofList (Blank.squeeze (name.text src))), ?_, ?_⟩
    · rw [tagName_of_nameIn? hname, hread]
      rfl
    · exact congrArg some ((h role name hname).qualifiedName_eq hchars)

/-- An element with the names of its tags resolved to different components. -/
def disagrees (src : Source) (n : Node) : Bool :=
  n.kind == "jsx_element" && n.resolvedIn? src "open_tag" != n.resolvedIn? src "close_tag"

theorem disagrees_iff {n : Node} : n.disagrees src = true ↔ n.kind = "jsx_element" ∧
    n.resolvedIn? src "open_tag" ≠ n.resolvedIn? src "close_tag" := by
  simp [disagrees]

/-- What is wrong with an element of plain names is that they resolve to different components. -/
theorem imbalance?_eq {n : Node} (hk : n.kind = "jsx_element") (h : n.TagsSpelled src)
    (hplain : n.TagsPlain src) : ∃ name : Option String,
      n.resolvedIn? src "open_tag" = name.map .ok ∧ n.imbalance? src =
        if n.disagrees src then some (.unclosed (name.getD "") (src.position n.start)) else none := by
  obtain ⟨opened, hopened, hopenedName⟩ := h.exists_tagName hplain "open_tag"
  obtain ⟨closed, hclosed, hclosedName⟩ := h.exists_tagName hplain "close_tag"
  have hinj : Function.Injective (Option.map (Except.ok : String → Except Fault String)) :=
    Option.map_injective fun a b => Except.ok.inj
  refine ⟨opened, hopenedName, ?_⟩
  rw [imbalance?, openName, closeName, hopened, hclosed, disagrees, hopenedName, hclosedName, hk]
  by_cases heq : opened = closed
  · simp [heq]
  · simp [heq, hinj.eq_iff]

theorem isUnbalanced_eq_disagrees {n : Node} (h : n.kind = "jsx_element" → n.TagsSpelled src)
    (hplain : n.kind = "jsx_element" → n.TagsPlain src) : n.isUnbalanced src = n.disagrees src := by
  by_cases hk : n.kind = "jsx_element"
  · obtain ⟨name, -, heq⟩ := imbalance?_eq hk (h hk) (hplain hk)
    rw [isUnbalanced, heq]
    cases n.disagrees src <;> rfl
  · rw [isUnbalanced, imbalance?, disagrees, beq_false_of_ne hk]
    rfl

/-- An element is balanced only if both names can be read and are equal without their white space. -/
theorem names_eq_of_not_isUnbalanced {n : Node} (hk : n.kind = "jsx_element")
    (h : n.isUnbalanced src = false) : ∃ name : Option String,
      n.openName src = .ok name ∧ n.closeName src = .ok name := by
  rw [isUnbalanced, imbalance?, hk, beq_self_eq_true, if_pos rfl] at h
  cases hopened : n.openName src with
  | error run => simp [hopened] at h
  | ok opened =>
    cases hclosed : n.closeName src with
    | error run => simp [hopened, hclosed] at h
    | ok closed =>
      have heq : opened = closed := by
        by_contra hne
        simp [hopened, hclosed, hne] at h
      exact ⟨opened, rfl, by rw [heq]⟩

/-- A name that is no text is not compared. -/
theorem isUnbalanced_of_illFormed {n name : Node} {role : String} {run : Utf8.IllFormed}
    (hk : n.kind = "jsx_element") (hrole : role ∈ ["open_tag", "close_tag"])
    (hname : n.nameIn? role = some name) (h : name.strictText src = .error run) :
    n.isUnbalanced src = true := by
  by_contra hbalanced
  obtain ⟨read, hopened, hclosed⟩ := names_eq_of_not_isUnbalanced hk (by simpa using hbalanced)
  have hread : tagName src (n.child? role) =
      (name.strictText src).map fun cs => some (String.ofList (Blank.squeeze cs)) :=
    tagName_of_nameIn? hname
  rw [h] at hread
  simp only [List.mem_cons, List.not_mem_nil, or_false] at hrole
  rcases hrole with rfl | rfl
  · cases hread.symm.trans hopened
  · cases hread.symm.trans hclosed

/-- A comment in one of the two names alone sets them apart, whatever they resolve to. -/
theorem isUnbalanced_of_isMarked_ne {n o c : Node} (hk : n.kind = "jsx_element")
    (ho : n.nameIn? "open_tag" = some o) (hc : n.nameIn? "close_tag" = some c)
    (hne : o.isMarked src ≠ c.isMarked src) : n.isUnbalanced src = true := by
  by_contra hbalanced
  obtain ⟨name, hopened, hclosed⟩ := names_eq_of_not_isUnbalanced hk (by simpa using hbalanced)
  have hmarked (t : Node) (hread : (t.strictText src).map
      (fun cs => some (String.ofList (Blank.squeeze cs))) = .ok name) :
      some (t.isMarked src) = name.map fun s => s.toList.any isMark := by
    cases hs : t.strictText src with
    | error run =>
      rw [hs] at hread
      cases hread
    | ok cs =>
      rw [hs] at hread
      rw [← Except.ok.inj hread, isMarked, Node.text, Utf8.decode_of_decodeStrict hs, Option.map_some,
        String.toList_ofList, any_isMark_squeeze]
  rw [openName, tagName_of_nameIn? ho] at hopened
  rw [closeName, tagName_of_nameIn? hc] at hclosed
  exact hne (Option.some.inj ((hmarked o hopened).trans (hmarked c hclosed).symm))

/-- How the tags of elements are checked in a tree without errors. Where the names are plain, the
tree is accepted exactly if both tags of every element resolve to the same name, and otherwise the
first element in pre-order for which they do not is reported under the name of its opening tag. A
comment in one of the names of an element, but not in the other, has the tree refused, and so has a name
that is no text. -/
theorem check_compares_names {root : Node} (herror : root.hasError = false)
    (hnames : ∀ n ∈ root.nodes, n.kind = "jsx_element" → n.TagsSpelled src) :
    ((∀ n ∈ root.nodes, n.kind = "jsx_element" → n.TagsPlain src) →
      (root.check src = .ok root ↔ ∀ n ∈ root.nodes, n.kind = "jsx_element" →
        n.resolvedIn? src "open_tag" = n.resolvedIn? src "close_tag") ∧
      ∀ n, root.nodes.find? (disagrees src) = some n → ∃ name : Option String,
        n.resolvedIn? src "open_tag" = name.map .ok ∧
        root.check src = .error (.unclosed (name.getD "") (src.position n.start))) ∧
    (∀ n ∈ root.nodes, n.kind = "jsx_element" → ∀ o c, n.nameIn? "open_tag" = some o →
      n.nameIn? "close_tag" = some c → o.isMarked src ≠ c.isMarked src →
      root.check src ≠ .ok root) ∧
    ∀ n ∈ root.nodes, n.kind = "jsx_element" → ∀ role ∈ ["open_tag", "close_tag"],
      ∀ name run, n.nameIn? role = some name → name.strictText src = .error run →
      root.check src ≠ .ok root := by
  refine ⟨?_, ?_, ?_⟩
  · intro hplain
    have hfind : root.nodes.find? (isUnbalanced src) = root.nodes.find? (disagrees src) :=
      List.find?_congr fun n hn => isUnbalanced_eq_disagrees (hnames n hn) (hplain n hn)
    have hreported : ∀ n, root.nodes.find? (disagrees src) = some n → ∃ name : Option String,
        n.resolvedIn? src "open_tag" = name.map .ok ∧
        root.check src = .error (.unclosed (name.getD "") (src.position n.start)) := by
      intro n hn
      have hmem : n ∈ root.nodes := List.mem_of_find?_eq_some hn
      have hdiffer : n.disagrees src = true := List.find?_some hn
      have hk : n.kind = "jsx_element" := (disagrees_iff.1 hdiffer).1
      obtain ⟨name, hname, heq⟩ := imbalance?_eq hk (hnames n hmem hk) (hplain n hmem hk)
      refine ⟨name, hname, ?_⟩
      rw [check_eq_find? herror, hfind, hn, Option.bind_some, heq, if_pos hdiffer]
    refine ⟨?_, hreported⟩
    have hnone : root.nodes.find? (disagrees src) = none ↔ ∀ n ∈ root.nodes,
        n.kind = "jsx_element" → n.resolvedIn? src "open_tag" = n.resolvedIn? src "close_tag" := by
      simp only [List.find?_eq_none, disagrees_iff, not_and, not_not]
    rw [← hnone]
    cases hfirst : root.nodes.find? (disagrees src) with
    | none => simp [check_eq_find? herror, hfind, hfirst]
    | some n =>
      obtain ⟨name, -, hcheck⟩ := hreported n hfirst
      simp [hcheck]
  · intro n hn hk o c ho hc hne
    exact check_ne_ok_of_isUnbalanced herror hn (isUnbalanced_of_isMarked_ne hk ho hc hne)
  · intro n hn hk role hrole name run hname hread
    exact check_ne_ok_of_isUnbalanced herror hn (isUnbalanced_of_illFormed hk hrole hname hread)

end Node

namespace Sample

open Grammar

/-- A chain of two identifiers of one letter each. -/
def chainName (first dot last : Nat) : Node :=
  { kind := "member_expression", start := first, stop := last + 1, role := some "name"
    children := [{ kind := "identifier", start := first, stop := first + 1, role := some "object" },
      { kind := ".", start := dot, stop := dot + 1, named := false },
      { kind := "property_identifier", start := last, stop := last + 1, role := some "property" }] }

def chainElement (o c : Node) : Node :=
  { kind := "jsx_element", start := 0, stop := c.stop + 1
    children := [{ kind := "jsx_opening_element", start := 0, stop := o.stop + 1
                   role := some "open_tag", children := [o] },
      { kind := "jsx_closing_element", start := o.stop + 1, stop := c.stop + 1
        role := some "close_tag", children := [c] }] }

def chainRoot (o c : Node) : Node :=
  { kind := "program", start := 0, stop := c.stop + 1, children := [chainElement o c] }

/-- The text `<A .B></A.B>` with a line feed before the last letter. -/
def spaced : Source := [0x3C, 0x41, 0x20, 0x2E, 0x42, 0x3E, 0x3C, 0x2F, 0x41, 0x2E, 0x0A, 0x42, 0x3E]

def spacedRoot : Node := chainRoot (chainName 1 3 4) (chainName 8 9 11)

/-- The text `<A./*x*/B></A.B>`. -/
def commented : Source :=
  [0x3C, 0x41, 0x2E, 0x2F, 0x2A, 0x78, 0x2A, 0x2F, 0x42, 0x3E, 0x3C, 0x2F, 0x41, 0x2E, 0x42, 0x3E]

def commentedRoot : Node := chainRoot (chainName 1 2 8) (chainName 12 13 14)

theorem eq_of_mem_chainRoot {a b c d e f : Nat} {n : Node}
    (h : n ∈ (chainRoot (chainName a b c) (chainName d e f)).nodes) (hk : n.kind = "jsx_element") :
    n = chainElement (chainName a b c) (chainName d e f) := by
  simp only [chainRoot, chainElement, chainName, Node.nodes, Node.nodesAll, List.append_nil,
    List.cons_append, List.nil_append, List.mem_cons, List.not_mem_nil, or_false] at h
  rcases h with rfl | rfl | rfl | rfl | rfl | rfl | rfl | rfl | rfl | rfl | rfl | rfl <;>
    first | rfl | simp at hk

theorem eq_of_nameIn? {o c name : Node} {role : String}
    (h : (chainElement o c).nameIn? role = some name) : name = o ∨ name = c := by
  obtain ⟨tag, htag, hname⟩ := Option.bind_eq_some_iff.1 h
  have hmem : tag ∈ (chainElement o c).children := List.mem_of_find?_eq_some htag
  have hchild : name ∈ tag.children := List.mem_of_find?_eq_some hname
  simp only [chainElement, List.mem_cons, List.not_mem_nil, or_false] at hmem
  rcases hmem with rfl | rfl
  · exact Or.inl (List.mem_singleton.1 hchild)
  · exact Or.inr (List.mem_singleton.1 hchild)

theorem spelled_chainName {src : Source} {first dot last : Nat} {before after : List Char}
    (hbefore : IsTrivia before) (hafter : IsTrivia after)
    (hfirst : Utf8.decode (src.slice first (first + 1)) = ['A'])
    (hlast : Utf8.decode (src.slice last (last + 1)) = ['B'])
    (hall : Utf8.decode (src.slice first (last + 1)) =
      ['A'] ++ before ++ '.' :: (after ++ ['B'])) : (chainName first dot last).Spelled src := by
  have ha : isIdentifierChar 'A' = true := by cbv
  have hb : isIdentifierChar 'B' = true := by cbv
  refine .chain rfl rfl rfl (.leaf rfl ?_) (.leaf rfl ?_) hbefore hafter ?_
  · simp only [Node.text, hfirst]
    simpa using ha
  · simp only [Node.text, hlast]
    simpa using hb
  · simp only [Node.text, hfirst, hlast]
    exact hall

theorem tagsSpelled_spaced : (chainElement (chainName 1 3 4) (chainName 8 9 11)).TagsSpelled
    spaced := by
  intro role name hname
  have hspace : IsTrivia [' '] := .space (by cbv) .nil
  have hbreak : IsTrivia ['\n'] := .space (by cbv) .nil
  rcases eq_of_nameIn? hname with rfl | rfl
  · exact spelled_chainName hspace .nil (by cbv) (by cbv) (by cbv)
  · exact spelled_chainName .nil hbreak (by cbv) (by cbv) (by cbv)

theorem tagsSpelled_commented : (chainElement (chainName 1 2 8) (chainName 12 13 14)).TagsSpelled
    commented := by
  intro role name hname
  have hcomment : IsTrivia ['/', '*', 'x', '*', '/'] := @IsTrivia.block ['x'] [] (by decide) .nil
  rcases eq_of_nameIn? hname with rfl | rfl
  · exact spelled_chainName .nil hcomment (by cbv) (by cbv) (by cbv)
  · exact spelled_chainName .nil .nil (by cbv) (by cbv) (by cbv)

theorem tagsPlain_spaced : (chainElement (chainName 1 3 4) (chainName 8 9 11)).TagsPlain
    spaced := by
  intro role name hname
  rcases eq_of_nameIn? hname with rfl | rfl <;> cbv

theorem resolved_chainElement {src : Source} {a b c d e f : Nat} (role : String)
    (h : role ∈ ["open_tag", "close_tag"])
    (ha : Utf8.decode (src.slice a (a + 1)) = ['A']) (hc : Utf8.decode (src.slice c (c + 1)) = ['B'])
    (hd : Utf8.decode (src.slice d (d + 1)) = ['A']) (hf : Utf8.decode (src.slice f (f + 1)) = ['B']) :
    (chainElement (chainName a b c) (chainName d e f)).resolvedIn? src role = some (.ok "A.B") := by
  have hchain (first dot last : Nat) (hfirst : Utf8.decode (src.slice first (first + 1)) = ['A'])
      (hlast : Utf8.decode (src.slice last (last + 1)) = ['B']) :
      (chainName first dot last).qualifiedName src = .ok "A.B" := by
    refine Node.qualifiedName_of_isNameChain (a := "A") (b := "B") rfl rfl rfl ?_ ?_
    · rw [Node.qualifiedName_eq]
      simp only [Node.text, hfirst]
      rfl
    · rw [Node.qualifiedName_eq]
      simp only [Node.text, hlast]
      rfl
  simp only [List.mem_cons, List.not_mem_nil, or_false] at h
  rcases h with rfl | rfl
  · exact congrArg some (hchain a b c ha hc)
  · exact congrArg some (hchain d e f hd hf)

theorem resolved_spaced (role : String) (h : role ∈ ["open_tag", "close_tag"]) :
    (chainElement (chainName 1 3 4) (chainName 8 9 11)).resolvedIn? spaced role =
      some (.ok "A.B") :=
  resolved_chainElement role h (by cbv) (by cbv) (by cbv) (by cbv)

/-- The two chains with the comment between them left out are the same name. -/
theorem resolved_commented (role : String) (h : role ∈ ["open_tag", "close_tag"]) :
    (chainElement (chainName 1 2 8) (chainName 12 13 14)).resolvedIn? commented role =
      some (.ok "A.B") :=
  resolved_chainElement role h (by cbv) (by cbv) (by cbv) (by cbv)

end Sample

/-- Blanks and line feeds in a name do not count. A comment does, though the names on both sides are
the same. -/
theorem Node.check_compares_names_chains :
    Sample.spacedRoot.check Sample.spaced = .ok Sample.spacedRoot ∧
    (∀ n ∈ Sample.commentedRoot.nodes, n.kind = "jsx_element" →
      n.resolvedIn? Sample.commented "open_tag" = n.resolvedIn? Sample.commented "close_tag") ∧
    Sample.commentedRoot.check Sample.commented ≠ .ok Sample.commentedRoot := by
  refine ⟨?_, ?_, ?_⟩
  · have hspaced := @check_compares_names Sample.spaced Sample.spacedRoot rfl
      fun n hn hk => Sample.eq_of_mem_chainRoot hn hk ▸ Sample.tagsSpelled_spaced
    refine (hspaced.1 ?_).1.2 ?_
    · intro n hn hk
      rw [Sample.eq_of_mem_chainRoot hn hk]
      exact Sample.tagsPlain_spaced
    · intro n hn hk
      rw [Sample.eq_of_mem_chainRoot hn hk, Sample.resolved_spaced _ (by simp),
        Sample.resolved_spaced _ (by simp)]
  · intro n hn hk
    rw [Sample.eq_of_mem_chainRoot hn hk, Sample.resolved_commented _ (by simp),
      Sample.resolved_commented _ (by simp)]
  · have hcommented := @check_compares_names Sample.commented Sample.commentedRoot rfl
      fun n hn hk => Sample.eq_of_mem_chainRoot hn hk ▸ Sample.tagsSpelled_commented
    have hopen : (Sample.chainName 1 2 8).isMarked Sample.commented = true := by cbv
    have hclose : (Sample.chainName 12 13 14).isMarked Sample.commented = false := by cbv
    refine hcommented.2.1 (Sample.chainElement (Sample.chainName 1 2 8) (Sample.chainName 12 13 14))
      (mem_nodes_of_child List.mem_cons_self (self_mem_nodes _)) rfl _ _ rfl rfl ?_
    rw [hopen, hclose]
    decide

end MarkupCensus
