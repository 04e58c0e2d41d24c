import MarkupCensus.Proofs.Usages

namespace MarkupCensus

theorem ParseFailure.message_malformed (p : Position) : (malformed (some p)).message =
    "syntax error at line " ++ toString p.line ++ ", column " ++ toString p.column := by
  change "syntax error at " ++ ("line " ++ toString p.line ++ ", column " ++ toString p.column) = _
  simp [← String.append_assoc]

namespace Node

/-- A search that leaves out only what holds nothing wanted finds the first wanted node of the whole
trees. -/
theorem searchStack_eq_find? {wanted enter : Node → Bool}
    (henter : ∀ n, enter n = false → ∀ m ∈ nodes n, wanted m = false) (stack : List Node) :
    searchStack wanted enter stack = (nodesAll stack).find? wanted := by
  fun_induction searchStack wanted enter stack with
  | case1 => rfl
  | case2 n rest h => simp [nodesAll, nodes_eq, h]
  | case3 n rest h ih =>
    -- children that are not entered would have been searched in vain
    have hskipped (cs : List Node) : (nodesAll (cs.filter enter)).find? wanted =
        (nodesAll cs).find? wanted := by
      induction cs with
      | nil => rfl
      | cons c cs ihc =>
        rw [nodesAll, List.find?_append]
        cases hc : enter c with
        | true => rw [List.filter_cons_of_pos hc, nodesAll, List.find?_append, ihc]
        | false =>
          have hnone : (nodes c).find? wanted = none :=
            List.find?_eq_none.2 fun m hm => by simp [henter c hc m hm]
          rw [List.filter_cons_of_neg (by simp [hc]), ihc, hnone, Option.none_or]
    have hall := hskipped n.children
    rw [nodesAll_eq_flatMap, nodesAll_eq_flatMap n.children] at hall
    rw [ih, nodesAll, nodes_eq, nodesAll_eq_flatMap, List.flatMap_append, List.find?_append,
      List.find?_append, List.find?_cons_of_neg h, childrenWhere, hall, nodesAll_eq_flatMap]

/-- A search of one tree, where nothing is left out, finds its first wanted node. -/
theorem searchStack_all (wanted : Node → Bool) (root : Node) :
    searchStack wanted (fun _ => true) [root] = root.nodes.find? wanted := by
  rw [searchStack_eq_find? (fun n hn => by cases hn), nodesAll, nodesAll, List.append_nil]

theorem anyError_eq_any (ns : List Node) : anyError ns = ns.any hasError := by
  induction ns with
  | nil => rfl
  | cons n ns ih => rw [anyError, ih, List.any_cons]

theorem hasError_eq (n : Node) : n.hasError = (n.isFaulty || n.children.any hasError) := by
  cases n
  rw [hasError, anyError_eq_any]
  rfl

/-- A tree has an error if one of its nodes is faulty. -/
theorem hasError_eq_any_nodes (n : Node) : n.hasError = n.nodes.any isFaulty := by
  induction n using childInduction with
  | _ n ih =>
    rw [hasError_eq, nodes_eq, List.any_cons, List.any_flatMap]
    congr 1
    rw [Bool.eq_iff_iff, List.any_eq_true, List.any_eq_true]
    exact exists_congr fun c => and_congr_right fun hc => by rw [ih c hc]

/-- Passing over subtrees without errors, a search still finds the first faulty node. -/
theorem searchStack_faulty (root : Node) :
    searchStack isFaulty hasError [root] = root.nodes.find? isFaulty := by
  have henter (n : Node) (hn : n.hasError = false) (m : Node) (hm : m ∈ n.nodes) :
      m.isFaulty = false := by
    rw [hasError_eq_any_nodes] at hn
    simpa using List.any_eq_false.1 hn m hm
  rw [searchStack_eq_find? henter, nodesAll, nodesAll, List.append_nil]

theorem firstError_eq (src : Source) (root : Node) : root.firstError src =
    .malformed ((root.nodes.find? isFaulty).map fun n => src.position n.start) := by
  rw [firstError, searchStack_faulty]

/-- A tree with an error is refused, and the refusal gives the line and column, both counted from
one, of its first faulty node in pre-order: the one that a search of all nodes finds. -/
theorem check_reports_first_faulty (src : Source) {root : Node} (herror : root.hasError = true) :
    ∃ before n after, root.nodes = before ++ n :: after ∧
      (n.kind = "ERROR" ∨ n.missing = true) ∧
      (∀ m ∈ before, m.kind ≠ "ERROR" ∧ m.missing = false) ∧
      searchStack isFaulty hasError [root] = some n ∧
      searchStack isFaulty (fun _ => true) [root] = some n ∧
      root.check src = .error (root.firstError src) ∧
      (root.firstError src).message =
        "syntax error at line " ++ toString (src.row n.start + 1) ++ ", column " ++
          toString ((src.linePart n.start).length + 1) := by
  -- an error is somewhere, so the search cannot run dry
  have hsome : (root.nodes.find? isFaulty).isSome = true := by
    rw [List.isSome_find?, ← hasError_eq_any_nodes, herror]
  obtain ⟨n, hn⟩ := Option.isSome_iff_exists.1 hsome
  obtain ⟨hfaulty, before, after, hnodes, hbefore⟩ := List.find?_eq_some_iff_append.1 hn
  refine ⟨before, n, after, hnodes, ?_, ?_, ?_, ?_, ?_, ?_⟩
  · simpa [isFaulty] using hfaulty
  · intro m hm
    simpa [isFaulty] using hbefore m hm
  · rw [searchStack_faulty, hn]
  · rw [searchStack_all, hn]
  · rw [check, if_pos herror]
  · have hfirst : root.firstError src = .malformed (some (src.position n.start)) := by
      rw [firstError_eq, hn, Option.map_some]
    rw [hfirst, ParseFailure.message_malformed]
    rfl

end Node

namespace Sample

def brokenSource : Source := "a;\n f(x\n)) b".toUTF8.toList

/-- The second line lacks the end of its arguments, and the third has a bracket too many. -/
def brokenRoot : Node where
  kind := "program"
  start := 0
  stop := 12
  children :=
    [{ kind := "expression_statement", start := 0, stop := 2,
       children := [{ kind := "identifier", start := 0, stop := 1 }] },
     { kind := "expression_statement", start := 4, stop := 7,
       children := [{ kind := "identifier", start := 4, stop := 5 },
         { kind := "arguments", start := 5, stop := 7,
           children := [{ kind := ")", start := 7, stop := 7, named := false, missing := true }] }] },
     { kind := "ERROR", start := 8, stop := 10 }]

end Sample

theorem Node.check_reports_first_faulty_broken :
    Sample.brokenRoot.hasError = true ∧
      (Sample.brokenRoot.firstError Sample.brokenSource).message =
        "syntax error at line 2, column 5" := by
  have herror : Sample.brokenRoot.hasError = true := by decide
  refine ⟨herror, ?_⟩
  obtain ⟨-, n, -, -, -, -, hfound, -, -, hmessage⟩ :=
    Node.check_reports_first_faulty Sample.brokenSource herror
  have hn : n.start = 7 := by
    rw [Node.searchStack_faulty] at hfound
    have hlist : Sample.brokenRoot.nodes.find? Node.isFaulty =
        some { kind := ")", start := 7, stop := 7, named := false, missing := true } := by rfl
    rw [hlist] at hfound
    rw [← Option.some.inj hfound]
  rw [hmessage, hn]
  cbv

end MarkupCensus
