import MarkupCensus.Proofs.Faults
import MarkupCensus.Proofs.Padding
import MarkupCensus.Proofs.Unescaping

namespace MarkupCensus

/-- What an attribute says of a tag: that properties are spread into it, or what one of them is. -/
inductive Attribute where
  | spread
  | named (name : String) (value : Value)

def Attribute.pair? : Attribute → Option (String × Value)
  | spread => none
  | named name value => some (name, value)

/-- The names and values of the properties that are named, in order. -/
def namedPairs (as : List Attribute) : List (String × Value) := as.filterMap Attribute.pair?

namespace Instance

/-- Takes over what an attribute says. -/
def put (use : Instance) : Attribute → Instance
  | .spread => { use with spread := true }
  | .named name value => { use with props := use.props.set name value }

theorem props_foldl_put (as : List Attribute) (use : Instance) :
    (as.foldl put use).props = (namedPairs as).foldl (fun m p => m.set p.1 p.2) use.props := by
  induction as generalizing use with
  | nil => rfl
  | cons a as ih =>
    rw [List.foldl_cons, ih]
    cases a <;> rfl

theorem spread_foldl_put (as : List Attribute) (use : Instance) :
    (as.foldl put use).spread = true ↔ use.spread = true ∨ .spread ∈ as := by
  induction as generalizing use with
  | nil => simp
  | cons a as ih =>
    rw [List.foldl_cons, ih]
    cases a <;> simp [put]

end Instance

namespace Node

def isNamed (n : Node) : Bool := n.kind == "jsx_attribute"

/-- The name of a named attribute is the text of the first thing in it. -/
def attributeName (src : Source) (n : Node) : String :=
  String.ofList ((n.significant.headD n).text src)

/-- What stands for the value of a named attribute. -/
def valueNode? (n : Node) : Option Node := n.significant.tail.head?

/-- The value that is given by what stands for it. -/
inductive HasValue (src : Source) : Option Node → Value → Prop
  | absent : HasValue src none .null
  | quoted {n : Node} {out : List Char} (kind : n.kind = "string")
    (inside : CharRef.Unescapes (n.inner src) out) :
    HasValue src (some n) (.text (out.map CodePoint.ofChar))
  | empty {n : Node} (kind : n.kind = "jsx_expression") (inside : n.significant = []) :
    HasValue src (some n) (.ofString "(JSXEmptyExpression)")
  | literal {n inner : Node} {v : Value} (kind : n.kind = "jsx_expression")
    (inside : n.significant.head? = some inner) (isLiteral : inner.unwrap.isLiteral = true)
    (value : inner.unwrap.literalValue src false = .ok v) : HasValue src (some n) v
  | symbolic {n inner : Node} (kind : n.kind = "jsx_expression")
    (inside : n.significant.head? = some inner) (other : inner.unwrap.isLiteral = false) :
    HasValue src (some n) (.ofString ("(" ++ inner.unwrap.expressionKind ++ ")"))

/-- What is wrong with what stands for a value: it is neither a string nor in braces, it is a string that
refers to a character by a number of too many digits, or a literal in braces that has no value. -/
inductive LacksValue (src : Source) : Option Node → Fault → Prop
  | unknown {n : Node} (notQuoted : n.kind ≠ "string") (notBraced : n.kind ≠ "jsx_expression") :
    LacksValue src (some n) (.shape .value n.kind (src.position n.start))
  | overlong {n : Node} {digits : Nat} (kind : n.kind = "string")
    (overlong : ¬CharRef.AllReadable (n.inner src))
    (value : CharRef.unescape (n.inner src) = .error (.overlongNumeral digits)) :
    LacksValue src (some n) (.literal (.overlongNumeral digits))
  | literal {n inner : Node} {e : LiteralFault} (kind : n.kind = "jsx_expression")
    (inside : n.significant.head? = some inner) (isLiteral : inner.unwrap.isLiteral = true)
    (value : inner.unwrap.literalValue src false = .error (.literal e)) :
    LacksValue src (some n) (.literal e)

/-- What an attribute that can be read says. -/
inductive Reads (src : Source) (n : Node) : Attribute → Prop
  | spread (h : n.isSpread = true) : Reads src n .spread
  | named {v : Value} (isNamed : n.isNamed = true) (value : HasValue src n.valueNode? v) :
    Reads src n (.named (n.attributeName src) v)

/-- What is wrong with an attribute: it is neither named nor a spread, or its value cannot be read. -/
inductive Fails (src : Source) (n : Node) : Fault → Prop
  | neither (unnamed : n.isNamed = false) (closed : n.isSpread = false) :
    Fails src n (.shape .attribute n.kind (src.position n.start))
  | value {fault : Fault} (isNamed : n.isNamed = true)
    (value : LacksValue src n.valueNode? fault) : Fails src n fault

section Values

variable {src : Source} {n : Node} {o : Option Node} {v w : Value} {fault : Fault}

theorem exists_literal_fault {markup : Bool} (h : n.isLiteral = true)
    (he : n.literalValue src markup = .error fault) : ∃ e, fault = .literal e := by
  unfold literalValue at he
  split at he
  · obtain ⟨e, -, rfl⟩ := exists_error_of_mapError_error he
    exact ⟨e, rfl⟩
  · split at he
    · obtain ⟨e, -, rfl⟩ := exists_error_of_mapError_error he
      exact ⟨e, rfl⟩
    · -- the other literals always have a value
      iterate 4
        split at he
        · cases he
      simp_all [isLiteral]

theorem bracedValue_of_head? {inner : Node} (h : n.significant.head? = some inner) :
    n.bracedValue src = if inner.unwrap.isLiteral then inner.unwrap.literalValue src false
      else .ok (.ofString ("(" ++ inner.unwrap.expressionKind ++ ")")) := by
  obtain ⟨rest, hs⟩ := List.head?_eq_some_iff.1 h
  rw [bracedValue, hs]

theorem HasValue.attributeValue_eq (h : HasValue src o v) : attributeValue src o = .ok v := by
  cases h with
  | absent => rfl
  | quoted kind inside =>
    simp only [attributeValue, kind, beq_self_eq_true, if_true]
    exact (literalValue_markup_eq_ok_iff kind).2 (CharRef.unescape_eq_ok_iff.2 inside)
  | empty kind inside => simp [attributeValue, bracedValue, kind, inside]
  | literal kind inside isLiteral value =>
    simp [attributeValue, kind, bracedValue_of_head? inside, isLiteral, value]
  | symbolic kind inside other =>
    simp [attributeValue, kind, bracedValue_of_head? inside, other]

theorem HasValue.unique (hv : HasValue src o v) (hw : HasValue src o w) : v = w :=
  Except.ok.inj (hv.attributeValue_eq.symm.trans hw.attributeValue_eq)

theorem LacksValue.attributeValue_eq (h : LacksValue src o fault) :
    attributeValue src o = .error fault := by
  cases h with
  | unknown notQuoted notBraced => simp [attributeValue, notQuoted, notBraced, Node.unknown]
  | overlong kind _ value =>
    simp only [attributeValue, kind, beq_self_eq_true, if_true, literalValue_markup src kind, value]
    rfl
  | literal kind inside isLiteral value =>
    simp [attributeValue, kind, bracedValue_of_head? inside, isLiteral, value]

theorem hasValue_or_lacksValue (src : Source) (o : Option Node) :
    (∃ v, HasValue src o v) ∨ ∃ fault, LacksValue src o fault := by
  cases o with
  | none => exact Or.inl ⟨_, .absent⟩
  | some n =>
    by_cases hquoted : n.kind = "string"
    · rcases CharRef.unescape_cases (n.inner src) with ⟨-, out, hout⟩ | ⟨hnot, digits, -, herror⟩
      · exact Or.inl ⟨_, .quoted hquoted (CharRef.unescape_eq_ok_iff.1 hout)⟩
      · exact Or.inr ⟨_, .overlong hquoted hnot herror⟩
    by_cases hbraced : n.kind = "jsx_expression"
    · cases hs : n.significant.head? with
      | none => exact Or.inl ⟨_, .empty hbraced (List.head?_eq_none_iff.1 hs)⟩
      | some inner =>
        cases hl : inner.unwrap.isLiteral with
        | false => exact Or.inl ⟨_, .symbolic hbraced hs hl⟩
        | true =>
          cases hv : inner.unwrap.literalValue src false with
          | ok v => exact Or.inl ⟨v, .literal hbraced hs hl hv⟩
          | error fault =>
            obtain ⟨e, rfl⟩ := exists_literal_fault hl hv
            exact Or.inr ⟨_, .literal hbraced hs hl hv⟩
    · exact Or.inr ⟨_, .unknown hquoted hbraced⟩

end Values

section Steps

variable {src : Source} {n : Node} {a : Attribute} {fault : Fault}

theorem reads_or_fails (src : Source) (n : Node) :
    (∃ a, Reads src n a) ∨ ∃ fault, Fails src n fault := by
  cases hk : n.isNamed with
  | true =>
    rcases hasValue_or_lacksValue src n.valueNode? with ⟨v, hv⟩ | ⟨fault, hf⟩
    · exact Or.inl ⟨_, .named hk hv⟩
    · exact Or.inr ⟨fault, .value hk hf⟩
  | false =>
    cases hs : n.isSpread with
    | true => exact Or.inl ⟨_, .spread hs⟩
    | false => exact Or.inr ⟨_, .neither hk hs⟩

/-- Names and braces are of different kinds. -/
theorem isNamed_of_isSpread (h : n.isSpread = true) : n.isNamed = false := by
  unfold isSpread at h
  split at h
  · simp only [Bool.and_eq_true, beq_iff_eq] at h
    simp [isNamed, h.1]
  · cases h

theorem namedAttribute_eq (hname : n.significant ≠ []) : n.namedAttribute src =
    (attributeValue src n.valueNode?).map (n.attributeName src, ·) := by
  obtain ⟨name, parts, hs⟩ := List.exists_cons_of_ne_nil hname
  rw [namedAttribute, hs, valueNode?, attributeName, hs]
  simp only [List.tail_cons, List.headD_cons]
  cases attributeValue src parts.head? <;> rfl

theorem addAttribute_of_named (h : n.isNamed = true) (hname : n.significant ≠ [])
    (use : Instance) : addAttribute src use n = (attributeValue src n.valueNode?).map
      fun v => use.put (.named (n.attributeName src) v) := by
  have hk : (n.kind == "jsx_attribute") = true := h
  rw [addAttribute, if_pos hk, namedAttribute_eq hname]
  cases attributeValue src n.valueNode? <;> rfl

/-- What an attribute says is taken over. -/
theorem Reads.addAttribute_eq (h : Reads src n a)
    (hname : n.isNamed = true → n.significant ≠ []) (use : Instance) :
    addAttribute src use n = .ok (use.put a) := by
  cases h with
  | spread h =>
    have hk : (n.kind == "jsx_attribute") = false := isNamed_of_isSpread h
    rw [addAttribute, hk, h]
    rfl
  | named isNamed value =>
    rw [addAttribute_of_named isNamed (hname isNamed), value.attributeValue_eq]
    rfl

/-- What is wrong with an attribute is reported. -/
theorem Fails.addAttribute_eq (h : Fails src n fault)
    (hname : n.isNamed = true → n.significant ≠ []) (use : Instance) :
    addAttribute src use n = .error fault := by
  cases h with
  | neither unnamed closed =>
    have hk : (n.kind == "jsx_attribute") = false := unnamed
    rw [addAttribute, hk, closed]
    rfl
  | value isNamed value =>
    rw [addAttribute_of_named isNamed (hname isNamed), value.attributeValue_eq]
    rfl

end Steps

section Runs

variable {src : Source} {ns : List Node} {as : List Attribute}

/-- Attributes that can all be read are taken over one after another. -/
theorem foldlM_of_reads (h : List.Forall₂ (Reads src) ns as)
    (hname : ∀ n ∈ ns, n.isNamed = true → n.significant ≠ []) (use : Instance) :
    ns.foldlM (addAttribute src) use = .ok (as.foldl Instance.put use) := by
  induction h generalizing use with
  | nil => rfl
  | cons hna _ ih =>
    rw [List.forall_mem_cons] at hname
    rw [List.foldlM_cons, hna.addAttribute_eq hname.1]
    exact ih hname.2 _

theorem forall_reads_iff :
    (∀ n ∈ ns, ∃ a, Reads src n a) ↔ ∃ as, List.Forall₂ (Reads src) ns as := by
  constructor
  · intro h
    induction ns with
    | nil => exact ⟨[], .nil⟩
    | cons n ns ih =>
      rw [List.forall_mem_cons] at h
      obtain ⟨a, ha⟩ := h.1
      obtain ⟨as, has⟩ := ih h.2
      exact ⟨a :: as, .cons ha has⟩
  · rintro ⟨as, has⟩
    induction has with
    | nil => simp
    | cons hna _ ih => exact List.forall_mem_cons.2 ⟨⟨_, hna⟩, ih⟩

/-- The first attribute that cannot be read ends the run, whatever comes after it. -/
theorem foldlM_of_fails {before after : List Node} {n : Node} {fault : Fault}
    (hbefore : ∀ m ∈ before, ∃ a, Reads src m a) (hn : Fails src n fault)
    (hname : ∀ m ∈ before ++ n :: after, m.isNamed = true → m.significant ≠ [])
    (use : Instance) :
    (before ++ n :: after).foldlM (addAttribute src) use = .error fault := by
  obtain ⟨as, has⟩ := forall_reads_iff.1 hbefore
  rw [List.forall_mem_append, List.forall_mem_cons] at hname
  rw [List.foldlM_append, foldlM_of_reads has hname.1]
  change (n :: after).foldlM (addAttribute src) _ = _
  rw [List.foldlM_cons, hn.addAttribute_eq hname.2.1]
  rfl

/-- Either all attributes can be read, or there is a first one that cannot. -/
theorem reads_or_exists_first_fails (src : Source) (ns : List Node) :
    (∀ n ∈ ns, ∃ a, Reads src n a) ∨ ∃ before n after fault, ns = before ++ n :: after ∧
      (∀ m ∈ before, ∃ a, Reads src m a) ∧ Fails src n fault := by
  induction ns with
  | nil => exact Or.inl (by simp)
  | cons n ns ih =>
    rcases reads_or_fails src n with hn | ⟨fault, hf⟩
    · rcases ih with h | ⟨before, m, after, fault, rfl, hbefore, hm⟩
      · exact Or.inl (List.forall_mem_cons.2 ⟨hn, h⟩)
      · exact Or.inr ⟨n :: before, m, after, fault, rfl, List.forall_mem_cons.2 ⟨hn, hbefore⟩, hm⟩
    · exact Or.inr ⟨[], n, ns, fault, rfl, by simp, hf⟩

/-- The pairs come from the named attributes alone, one from each. -/
theorem forall₂_namedPairs (h : List.Forall₂ (Reads src) ns as) :
    List.Forall₂ (fun n p => p.1 = n.attributeName src ∧ HasValue src n.valueNode? p.2)
      (ns.filter isNamed) (namedPairs as) := by
  induction h with
  | nil => exact .nil
  | @cons n a ns as hna _ ih =>
    cases hna with
    | spread h =>
      rw [List.filter_cons_of_neg (by simp [isNamed_of_isSpread h])]
      exact ih
    | named isNamed value =>
      rw [List.filter_cons_of_pos isNamed]
      exact .cons ⟨rfl, value⟩ ih

/-- Attributes that differ in spreads only name the same properties. -/
theorem namedPairs_eq_of_filter_eq {ms : List Node} {bs : List Attribute}
    (hn : List.Forall₂ (Reads src) ns as) (hm : List.Forall₂ (Reads src) ms bs)
    (h : ms.filter isNamed = ns.filter isNamed) :
    namedPairs bs = namedPairs as := by
  have hms := forall₂_namedPairs hm
  rw [h] at hms
  refine Relator.RightUnique.forall₂ ?_ hms (forall₂_namedPairs hn)
  rintro n p q ⟨hp, hpv⟩ ⟨hq, hqv⟩
  exact Prod.ext (hp.trans hq.symm) (hpv.unique hqv)

theorem spread_mem_iff (h : List.Forall₂ (Reads src) ns as) :
    .spread ∈ as ↔ ∃ n ∈ ns, n.isSpread = true := by
  induction h with
  | nil => simp
  | @cons n a ns as hna _ ih =>
    have hhead : .spread = a ↔ n.isSpread = true := by
      cases hna with
      | spread h => simp [h]
      | named isNamed value =>
        simp only [reduceCtorEq, false_iff]
        intro hs
        cases isNamed.symm.trans (isNamed_of_isSpread hs)
    rw [List.mem_cons, hhead, ih, List.exists_mem_cons_iff]

end Runs

section Tags

variable {src : Source} {file : String} {tag : Node} {as : List Attribute}

theorem use_of_name {name : Node} (h : tag.child? "name" = some name) : tag.use src file =
    (tag.childrenIn "attribute").foldlM (addAttribute src) { location := src.location file name.start } := by
  rw [use, h]

theorem use_of_nameless (h : tag.child? "name" = none) : tag.use src file = .error .nameless := by
  rw [use, h]

variable (hname : ∀ n ∈ tag.childrenIn "attribute", n.isNamed = true → n.significant ≠ [])
include hname

/-- A tag whose attributes can all be read is the use that they make. -/
theorem use_of_reads (htag : (tag.child? "name").isSome = true)
    (h : List.Forall₂ (Reads src) (tag.childrenIn "attribute") as) :
    ∃ use, tag.use src file = .ok use ∧ use.props = OrderedMap.ofPairs (namedPairs as) ∧
      (use.spread = true ↔ ∃ n ∈ tag.childrenIn "attribute", n.isSpread = true) := by
  obtain ⟨name, hchild⟩ := Option.isSome_iff_exists.1 htag
  refine ⟨_, (use_of_name hchild).trans (foldlM_of_reads h hname _),
    Instance.props_foldl_put as _, ?_⟩
  rw [Instance.spread_foldl_put, spread_mem_iff h]
  simp

theorem use_of_first_fails (htag : (tag.child? "name").isSome = true) {before after : List Node}
    {n : Node} {fault : Fault} (hsplit : tag.childrenIn "attribute" = before ++ n :: after)
    (hbefore : ∀ m ∈ before, ∃ a, Reads src m a) (hn : Fails src n fault) :
    tag.use src file = .error fault := by
  obtain ⟨name, hchild⟩ := Option.isSome_iff_exists.1 htag
  rw [use_of_name hchild, hsplit]
  exact foldlM_of_fails hbefore hn (hsplit ▸ hname) _

theorem reads_of_use_eq_ok (htag : (tag.child? "name").isSome = true) {use : Instance}
    (huse : tag.use src file = .ok use) :
    ∀ n ∈ tag.childrenIn "attribute", ∃ a, Reads src n a := by
  rcases reads_or_exists_first_fails src (tag.childrenIn "attribute") with
    h | ⟨before, n, after, fault, hsplit, hbefore, hn⟩
  · exact h
  · cases (use_of_first_fails hname htag hsplit hbefore hn).symm.trans huse

theorem exists_use_iff (htag : (tag.child? "name").isSome = true) :
    (∃ use, tag.use src file = .ok use) ↔
      ∀ n ∈ tag.childrenIn "attribute", ∃ a, Reads src n a := by
  constructor
  · rintro ⟨use, huse⟩
    exact reads_of_use_eq_ok hname htag huse
  · intro h
    obtain ⟨as, has⟩ := forall_reads_iff.1 h
    obtain ⟨use, huse, -⟩ := use_of_reads hname htag has
    exact ⟨use, huse⟩

/-- What is reported is what is wrong with the first attribute that cannot be read. -/
theorem use_eq_error_iff (htag : (tag.child? "name").isSome = true) {fault : Fault} :
    tag.use src file = .error fault ↔ ∃ before n after,
      tag.childrenIn "attribute" = before ++ n :: after ∧
      (∀ m ∈ before, ∃ a, Reads src m a) ∧ Fails src n fault := by
  constructor
  · intro herror
    rcases reads_or_exists_first_fails src (tag.childrenIn "attribute") with
      h | ⟨before, n, after, fault', hsplit, hbefore, hn⟩
    · obtain ⟨use, huse⟩ := (exists_use_iff hname htag).2 h
      cases huse.symm.trans herror
    · obtain rfl :=
        Except.error.inj ((use_of_first_fails hname htag hsplit hbefore hn).symm.trans herror)
      exact ⟨before, n, after, hsplit, hbefore, hn⟩
  · rintro ⟨before, n, after, hsplit, hbefore, hn⟩
    exact use_of_first_fails hname htag hsplit hbefore hn

/-- Adding, moving and removing spreads leaves the properties as they are. -/
theorem exists_use_of_named_eq (h : List.Forall₂ (Reads src) (tag.childrenIn "attribute") as)
    {tag' : Node} (htag : (tag'.child? "name").isSome = true)
    (hnamed : (tag'.childrenIn "attribute").filter isNamed =
      (tag.childrenIn "attribute").filter isNamed)
    (hspreads : ∀ n ∈ tag'.childrenIn "attribute", n.isNamed = true ∨ n.isSpread = true) :
    ∃ use, tag'.use src file = .ok use ∧ use.props = OrderedMap.ofPairs (namedPairs as) := by
  have hmem : ∀ n ∈ tag'.childrenIn "attribute", n.isNamed = true →
      n ∈ tag.childrenIn "attribute" := by
    intro n hn hk
    have hn' := List.mem_filter.2 ⟨hn, hk⟩
    rw [hnamed] at hn'
    exact (List.mem_filter.1 hn').1
  -- the named attributes are those of the first tag, where they can be read
  have hall : ∀ n ∈ tag'.childrenIn "attribute", ∃ a, Reads src n a := by
    intro n hn
    rcases hspreads n hn with hk | hs
    · exact forall_reads_iff.2 ⟨as, h⟩ n (hmem n hn hk)
    · exact ⟨_, .spread hs⟩
  obtain ⟨bs, hbs⟩ := forall_reads_iff.1 hall
  obtain ⟨use, huse, hprops, -⟩ :=
    use_of_reads (fun n hn hk => hname n (hmem n hn hk) hk) htag hbs
  exact ⟨use, huse, by rw [hprops, namedPairs_eq_of_filter_eq h hbs hnamed]⟩

end Tags

/-- What a tag comes to. It is a use if it has a name and every attribute can be read: its properties are
the named ones in the order in which their names first occur, with the values that are given last, it has
a spread if some attribute is one, and other spreads leave the properties as they are. Otherwise its lack
of a name is reported, or the first attribute that cannot be read: the attribute itself if it is neither
named nor a spread, and else what stands for its value. -/
theorem use_records_attributes (src : Source) (file : String) (tag : Node)
    (hname : ∀ n ∈ tag.childrenIn "attribute", n.isNamed = true → n.significant ≠ []) :
    ((∃ use, tag.use src file = .ok use) ↔ (tag.child? "name").isSome = true ∧
      ∀ n ∈ tag.childrenIn "attribute", ∃ a, Reads src n a) ∧
    (∀ use, tag.use src file = .ok use →
      ∃ as, List.Forall₂ (Reads src) (tag.childrenIn "attribute") as ∧
        OrderedMap.keys use.props = ((namedPairs as).map Prod.fst).eraseDups ∧
        (∀ name v, OrderedMap.get? use.props name = some v ↔ ∃ before after,
          namedPairs as = before ++ (name, v) :: after ∧ name ∉ after.map Prod.fst) ∧
        (use.spread = true ↔ ∃ n ∈ tag.childrenIn "attribute", n.isSpread = true) ∧
        ∀ tag' : Node, (tag'.child? "name").isSome = true →
          (tag'.childrenIn "attribute").filter isNamed =
            (tag.childrenIn "attribute").filter isNamed →
          (∀ n ∈ tag'.childrenIn "attribute", n.isNamed = true ∨ n.isSpread = true) →
          ∃ use', tag'.use src file = .ok use' ∧ use'.props = use.props) ∧
    ∀ fault, tag.use src file = .error fault ↔
      (tag.child? "name").isSome = false ∧ fault = .nameless ∨
      (tag.child? "name").isSome = true ∧ ∃ before n after,
        tag.childrenIn "attribute" = before ++ n :: after ∧
        (∀ m ∈ before, ∃ a, Reads src m a) ∧ Fails src n fault := by
  cases htag : (tag.child? "name").isSome with
  | false =>
    have hnone : tag.use src file = .error .nameless :=
      use_of_nameless (Option.isNone_iff_eq_none.1 (Option.isSome_eq_false_iff.1 htag))
    rw [hnone]
    refine ⟨by simp, fun use huse => (by cases huse), ?_⟩
    intro fault
    simp only [Except.error.injEq, Bool.false_eq_true, false_and, or_false, true_and]
    exact eq_comm
  | true =>
    simp only [Bool.true_eq_false, false_and, true_and, false_or]
    refine ⟨exists_use_iff hname htag, ?_, fun fault => use_eq_error_iff hname htag⟩
    intro use huse
    obtain ⟨as, has⟩ := forall_reads_iff.1 (reads_of_use_eq_ok hname htag huse)
    obtain ⟨use₁, huse₁, hprops, hspread⟩ := use_of_reads hname htag has
    obtain rfl := Except.ok.inj (huse₁.symm.trans huse)
    refine ⟨as, has, ?_, ?_, hspread, ?_⟩
    · rw [hprops, OrderedMap.keys_ofPairs]
    · intro name v
      rw [hprops, OrderedMap.get?_ofPairs_eq_some_iff]
    · intro tag' htag' hnamed hspreads
      rw [hprops]
      exact exists_use_of_named_eq hname has htag' hnamed hspreads

end Node

namespace Sample

def twice : Source := Utf8.encode "<A a=\"x\" \x7b...p\x7d b a=\x7b(c)\x7d d=\"1&lt;2\"/>".toList

/-- An attribute with a name of one letter, and what stands for its value. -/
def assigned (start stop : Nat) (values : List Node) : Node :=
  { kind := "jsx_attribute", start := start, stop := stop, role := some "attribute"
    children := { kind := "property_identifier", start := start, stop := start + 1 } :: values }

/-- Braces for an attribute. -/
def bracesOf (start stop : Nat) (inner : Node) : Node :=
  { kind := "jsx_expression", start := start, stop := stop, role := some "attribute"
    children := [inner] }

def quotedFirst : Node := assigned 3 8 [{ kind := "string", start := 5, stop := 8 }]

def spreadOfP : Node := bracesOf 9 15 { kind := "spread_element", start := 10, stop := 14 }

def inParens : Node :=
  { kind := "parenthesized_expression", start := 21, stop := 24
    children := [{ kind := "identifier", start := 22, stop := 23 }] }

def bracedLast : Node := assigned 18 25 [bracesOf 20 25 inParens]

def quotedReference : Node := assigned 26 36 [{ kind := "string", start := 28, stop := 36 }]

def tagOf (attributes : List Node) : Node :=
  { kind := "jsx_self_closing_element", start := 0, stop := 38
    children := name "identifier" 1 2 :: attributes }

/-- The tag that assigns `a` twice. -/
def twiceTag : Node :=
  tagOf [quotedFirst, spreadOfP, assigned 16 17 [], bracedLast, quotedReference]

/-- The same tag with two spreads, at its ends. -/
def spreadTag : Node :=
  tagOf [spreadOfP, quotedFirst, assigned 16 17 [], bracedLast, quotedReference, spreadOfP]

theorem attributeName_twice : quotedFirst.attributeName twice = "a" ∧
    (assigned 16 17 []).attributeName twice = "b" ∧ bracedLast.attributeName twice = "a" ∧
    quotedReference.attributeName twice = "d" := by
  refine ⟨?_, ?_, ?_, ?_⟩ <;> cbv

/-- A string between quotes that unescapes to the given text. -/
theorem hasValue_string {start stop : Nat} {out : String}
    (h : CharRef.unescape ({ kind := "string", start := start, stop := stop : Node }.inner twice) =
      .ok out.toList) :
    Node.HasValue twice (some { kind := "string", start := start, stop := stop }) (.ofString out) :=
  .quoted rfl (CharRef.unescape_eq_ok_iff.1 h)

theorem reads_bracedLast :
    bracedLast.Reads twice (.named (bracedLast.attributeName twice) (.ofString "(Identifier)")) := by
  have hunwrap : inParens.unwrap = { kind := "identifier", start := 22, stop := 23 } := by
    rw [Node.unwrap_of_single rfl rfl, Node.unwrap_of_ne (by decide)]
  have hkind : inParens.unwrap.expressionKind = "Identifier" := by
    rw [hunwrap, Node.expressionKind, Node.unwrap_of_ne (by decide)]
    rfl
  have hvalue : Node.HasValue twice bracedLast.valueNode?
      (.ofString ("(" ++ inParens.unwrap.expressionKind ++ ")")) :=
    .symbolic rfl rfl (by rw [hunwrap]; rfl)
  rw [hkind] at hvalue
  exact .named rfl hvalue

def twiceProps : OrderedMap Value :=
  [("a", .ofString "(Identifier)"), ("b", .null), ("d", .ofString "1<2")]

theorem use_twiceTag : twiceTag.use twice "a.jsx" =
    .ok { props := twiceProps, spread := true, location := ⟨"a.jsx", 1, 1⟩ } := by
  have hlocation : Source.location twice "a.jsx" 1 = ⟨"a.jsx", 1, 1⟩ := by cbv
  have hx : Node.HasValue twice quotedFirst.valueNode? (.ofString "x") :=
    hasValue_string (by decide +kernel)
  have hless : Node.HasValue twice quotedReference.valueNode? (.ofString "1<2") :=
    hasValue_string (by decide +kernel)
  have hreads : List.Forall₂ (Node.Reads twice) (twiceTag.childrenIn "attribute") _ :=
    .cons (.named rfl hx) (.cons (.spread rfl) (.cons (.named rfl .absent)
      (.cons reads_bracedLast (.cons (.named rfl hless) .nil))))
  have huse := Node.foldlM_of_reads hreads (by decide) { location := ⟨"a.jsx", 1, 1⟩ }
  rw [attributeName_twice.1, attributeName_twice.2.1, attributeName_twice.2.2.1,
    attributeName_twice.2.2.2, ← hlocation] at huse
  rw [← hlocation]
  exact huse

def unreadable : Source := Utf8.encode "<A b c=<B/> \x7bx\x7d/>".toList

/-- A tag with an element for a value, and braces without a spread after it. -/
def unreadableTag : Node :=
  tagOf [assigned 3 4 [], assigned 5 11 [{ kind := "jsx_self_closing_element", start := 7, stop := 11 }],
    bracesOf 12 15 { kind := "identifier", start := 13, stop := 14 }]

end Sample

/-- The property that is assigned twice keeps its first place and has its last value, and the string has
its reference replaced, also if the spreads stand elsewhere. Of two attributes that cannot be read the
first is reported. -/
theorem Node.use_records_attributes_twice :
    (Sample.twiceTag.use Sample.twice "a.jsx" =
        .ok { props := Sample.twiceProps, spread := true, location := ⟨"a.jsx", 1, 1⟩ } ∧
      ∃ use, Sample.spreadTag.use Sample.twice "a.jsx" = .ok use ∧ use.props = Sample.twiceProps) ∧
    Sample.unreadableTag.use Sample.unreadable "a.jsx" =
      .error (.shape .value "jsx_self_closing_element" ⟨1, 8⟩) := by
  refine ⟨⟨Sample.use_twiceTag, ?_⟩, ?_⟩
  · have htwice := (use_records_attributes Sample.twice "a.jsx" Sample.twiceTag
      (by decide)).2.1 _ Sample.use_twiceTag
    obtain ⟨as, -, -, -, -, hspreads⟩ := htwice
    exact hspreads Sample.spreadTag rfl rfl (by decide)
  · refine ((use_records_attributes Sample.unreadable "a.jsx" Sample.unreadableTag
      (by decide)).2.2 _).2 (Or.inr ⟨rfl,
      [Sample.assigned 3 4 []], _, _, rfl, ?_, .value rfl (.unknown (by decide) (by decide))⟩)
    intro m hm
    obtain rfl := List.mem_singleton.1 hm
    exact ⟨_, .named rfl .absent⟩

end MarkupCensus
