import MarkupCensus.Proofs.OrderedMap
import MarkupCensus.Tree.Walk

namespace MarkupCensus

variable {σ : Type}

/-- A call of a handler: the node it was given, and what it answered. -/
structure Call where
  node : Node
  answer : Option Action

/-- What a walk has done: its calls in order, the state they left, and whether it came to its end. -/
structure Walked (σ : Type) where
  calls : List Call
  state : σ
  completed : Bool

namespace Walked

/-- Goes on from where a walk has ended, unless it was stopped. -/
def andThen (w : Walked σ) (next : σ → Walked σ) : Walked σ :=
  if w.completed then { next w.state with calls := w.calls ++ (next w.state).calls } else w

theorem andThen_of_completed (calls : List Call) (s : σ) (next : σ → Walked σ) :
    andThen ⟨calls, s, true⟩ next = { next s with calls := calls ++ (next s).calls } := rfl

theorem andThen_of_stopped (calls : List Call) (s : σ) (next : σ → Walked σ) :
    andThen ⟨calls, s, false⟩ next = ⟨calls, s, false⟩ := rfl

@[simp] theorem andThen_end (w : Walked σ) : w.andThen (fun s => ⟨[], s, true⟩) = w := by
  obtain ⟨calls, s, completed⟩ := w
  cases completed <;> simp [andThen]

theorem andThen_assoc (w : Walked σ) (f g : σ → Walked σ) :
    (w.andThen f).andThen g = w.andThen fun s => (f s).andThen g := by
  obtain ⟨calls, s, completed⟩ := w
  cases completed with
  | false => rfl
  | true =>
    rw [andThen_of_completed, andThen_of_completed]
    cases h : (f s).completed <;> simp [andThen, h]

end Walked

mutual

/-- Walks a tree by recursion: first the node itself, then its children from left to right. A
handler that answers with nothing lets the recursion go on. -/
def Node.recurse (handlers : Handlers σ) (s : σ) : Node → Walked σ
  | n@⟨_, _, _, _, _, _, cs⟩ =>
    match handlers.get? n.kind with
    | none => Node.recurseAll handlers s cs
    | some handler =>
      match handler s n with
      | (s, some .stop) => ⟨[⟨n, some .stop⟩], s, false⟩
      | (s, some .skip) => ⟨[⟨n, some .skip⟩], s, true⟩
      | (s, answer) =>
        Walked.andThen ⟨[⟨n, answer⟩], s, true⟩ fun s => Node.recurseAll handlers s cs

/-- Walks trees one after another, up to the first in which the walk is stopped. -/
def Node.recurseAll (handlers : Handlers σ) (s : σ) : List Node → Walked σ
  | [] => ⟨[], s, true⟩
  | n :: ns => (n.recurse handlers s).andThen fun s => Node.recurseAll handlers s ns

end

namespace Handlers

/-- A handler that also enters its calls in a log. -/
def withLog (handler : σ → Node → σ × Option Action) (s : σ × List Call) (n : Node) :
    (σ × List Call) × Option Action :=
  let (state, answer) := handler s.1 n
  ((state, s.2 ++ [⟨n, answer⟩]), answer)

/-- The same handlers, with a log of all calls beside the state. -/
def logged (handlers : Handlers σ) : Handlers (σ × List Call) :=
  handlers.map fun e => (e.1, withLog e.2)

/-- The call that is made at a node, if its kind has a handler. -/
def callsAt (handlers : Handlers σ) (s : σ) (n : Node) : List Call :=
  match handlers.get? n.kind with
  | none => []
  | some handler => [⟨n, (handler s n).2⟩]

variable (handlers : Handlers σ)

theorem dispatch_logged (s : σ) (log : List Call) (n : Node) :
    dispatch handlers.logged (s, log) n =
      (((dispatch handlers s n).1, log ++ handlers.callsAt s n), (dispatch handlers s n).2) := by
  rw [dispatch, dispatch, callsAt, logged, OrderedMap.get?_map]
  cases handlers.get? n.kind with
  | none => simp
  | some handler => rfl

/-- At each node the recursion does what the handlers say there. -/
theorem recurse_eq (s : σ) (n : Node) : n.recurse handlers s =
    match dispatch handlers s n with
    | (s', .stop) => ⟨handlers.callsAt s n, s', false⟩
    | (s', .skip) => ⟨handlers.callsAt s n, s', true⟩
    | (s', .proceed) => Walked.andThen ⟨handlers.callsAt s n, s', true⟩ fun s =>
        Node.recurseAll handlers s n.children := by
  obtain ⟨kind, start, stop, role, named, missing, cs⟩ := n
  rw [Node.recurse, dispatch, callsAt]
  cases handlers.get? kind with
  | none => rfl
  | some handler =>
    dsimp only
    generalize handler s ⟨kind, start, stop, role, named, missing, cs⟩ = answered
    obtain ⟨s', answer⟩ := answered
    rcases answer with _ | _ | _ | _ <;> rfl

theorem recurseAll_append (s : σ) (ms ns : List Node) : Node.recurseAll handlers s (ms ++ ns) =
    (Node.recurseAll handlers s ms).andThen fun s => Node.recurseAll handlers s ns := by
  induction ms generalizing s with
  | nil => rfl
  | cons m ms ih => simp only [List.cons_append, Node.recurseAll, ih, Walked.andThen_assoc]

/-- The trees on the stack are those that the recursion has still to go through, from all levels. -/
theorem walkStack_logged (s : σ) (log : List Call) (stack : List Node) :
    walkStack (dispatch handlers.logged) (s, log) stack =
      (((Node.recurseAll handlers s stack).state, log ++ (Node.recurseAll handlers s stack).calls),
        (Node.recurseAll handlers s stack).completed) := by
  -- the induction follows the walk that keeps no log
  fun_induction walkStack (dispatch handlers) s stack generalizing log with
  | case1 s => simp [walkStack, Node.recurseAll]
  | case2 s n rest s' h =>
    rw [walkStack, dispatch_logged, Node.recurseAll, recurse_eq, h, Walked.andThen_of_stopped]
  | case3 s n rest s' h ih =>
    rw [walkStack, dispatch_logged, Node.recurseAll, recurse_eq, h, Walked.andThen_of_completed]
    simp [ih]
  | case4 s n rest s' h ih =>
    rw [walkStack, dispatch_logged, Node.recurseAll, recurse_eq, h]
    -- the children were pushed before the rest of the stack
    simp only [ih]
    rw [Walked.andThen_assoc, Walked.andThen_of_completed, ← recurseAll_append, List.append_assoc]

/-- Keeping a log changes neither the state nor the course of a walk. -/
theorem walkStack_eq_logged (s : σ) (log : List Call) (stack : List Node) :
    walkStack (dispatch handlers) s stack =
      ((walkStack (dispatch handlers.logged) (s, log) stack).1.1,
        (walkStack (dispatch handlers.logged) (s, log) stack).2) := by
  fun_induction walkStack (dispatch handlers) s stack generalizing log with
  | case1 s => rw [walkStack]
  | case2 s n rest s' h => rw [walkStack, dispatch_logged, h]
  | case3 s n rest s' h ih =>
    rw [walkStack, dispatch_logged, h]
    exact ih _
  | case4 s n rest s' h ih =>
    rw [walkStack, dispatch_logged, h]
    exact ih _

end Handlers

namespace Walked

/-- Only the last call may have asked for a stop, and it did so exactly if the walk did not come to
its end. -/
inductive StopsLast : Walked σ → Prop
  | completed (calls : List Call) (s : σ) (h : ∀ call ∈ calls, call.answer ≠ some .stop) :
      StopsLast ⟨calls, s, true⟩
  | stopped (calls : List Call) (n : Node) (s : σ) (h : ∀ call ∈ calls, call.answer ≠ some .stop) :
      StopsLast ⟨calls ++ [⟨n, some .stop⟩], s, false⟩

theorem StopsLast.andThen {w : Walked σ} {next : σ → Walked σ} (h : w.StopsLast)
    (hnext : ∀ s, (next s).StopsLast) : (w.andThen next).StopsLast := by
  cases h with
  | stopped calls n s h => exact .stopped calls n s h
  | completed calls s h =>
    have hall : ∀ more : List Call, (∀ call ∈ more, call.answer ≠ some .stop) →
        ∀ call ∈ calls ++ more, call.answer ≠ some .stop := by
      intro more hmore call hcall
      exact (List.mem_append.1 hcall).elim (h call) (hmore call)
    rw [andThen_of_completed]
    have hs := hnext s
    generalize next s = w at hs ⊢
    cases hs with
    | completed more s h' => exact .completed _ s (hall more h')
    | stopped more n s h' =>
      rw [← List.append_assoc]
      exact .stopped _ n s (hall more h')

theorem StopsLast.completed_eq_false_iff {w : Walked σ} (h : w.StopsLast) :
    w.completed = false ↔ ∃ call ∈ w.calls, call.answer = some .stop := by
  cases h with
  | completed calls s h =>
    simp only [Bool.true_eq_false, false_iff, not_exists, not_and]
    exact h
  | stopped calls n s h =>
    simp only [true_iff]
    exact ⟨⟨n, some .stop⟩, by simp, rfl⟩

theorem StopsLast.ne_stop_of_mem_dropLast {w : Walked σ} (h : w.StopsLast) {call : Call}
    (hcall : call ∈ w.calls.dropLast) : call.answer ≠ some .stop := by
  cases h with
  | completed calls s h => exact h call (List.mem_of_mem_dropLast hcall)
  | stopped calls n s h =>
    rw [List.dropLast_concat] at hcall
    exact h call hcall

end Walked

namespace Handlers

variable (handlers : Handlers σ)

mutual

theorem stopsLast_recurse (s : σ) : ∀ n : Node, (n.recurse handlers s).StopsLast
  | ⟨_, _, _, _, _, _, cs⟩ => by
    have hone : ∀ (n : Node) (answer : Option Action), answer ≠ some .stop →
        ∀ call ∈ [(⟨n, answer⟩ : Call)], call.answer ≠ some .stop := by
      intro n answer ha call hcall
      rw [List.mem_singleton.1 hcall]
      exact ha
    rw [Node.recurse]
    split
    · exact stopsLast_recurseAll s cs
    · split
      · next s' _ => exact .stopped [] _ s' (by simp)
      · next s' _ => exact .completed _ s' (hone _ _ (by simp))
      · next s' answer hstop _ _ =>
        exact Walked.StopsLast.andThen (.completed _ s' (hone _ answer hstop))
          fun s => stopsLast_recurseAll s cs

theorem stopsLast_recurseAll (s : σ) : ∀ ns : List Node,
    (Node.recurseAll handlers s ns).StopsLast
  | [] => .completed [] s (by simp)
  | n :: ns => by
    rw [Node.recurseAll]
    exact (stopsLast_recurse s n).andThen fun s => stopsLast_recurseAll s ns

end

/-- The walk with a stack is the recursion over the tree: the same calls in the same order, the same
state and the same result. It is cut short exactly if a call asks for a stop, and that call is the
last one. -/
theorem walk_eq_recurse (s : σ) (root : Node) :
    walk (dispatch handlers) s root =
      ((root.recurse handlers s).state, (root.recurse handlers s).completed) ∧
    walk (dispatch handlers.logged) (s, []) root =
      (((root.recurse handlers s).state, (root.recurse handlers s).calls),
        (root.recurse handlers s).completed) ∧
    ((walk (dispatch handlers) s root).2 = false ↔
      ∃ call ∈ (root.recurse handlers s).calls, call.answer = some .stop) ∧
    ∀ call ∈ (root.recurse handlers s).calls.dropLast, call.answer ≠ some .stop := by
  have hone : Node.recurseAll handlers s [root] = root.recurse handlers s := by
    simp only [Node.recurseAll, Walked.andThen_end]
  have hlogged : walk (dispatch handlers.logged) (s, []) root =
      (((root.recurse handlers s).state, (root.recurse handlers s).calls),
        (root.recurse handlers s).completed) := by
    rw [walk, walkStack_logged, hone, List.nil_append]
  have hplain : walk (dispatch handlers) s root =
      ((root.recurse handlers s).state, (root.recurse handlers s).completed) := by
    rw [walk] at hlogged ⊢
    rw [handlers.walkStack_eq_logged s [], hlogged]
  have hstops := handlers.stopsLast_recurse s root
  refine ⟨hplain, hlogged, ?_, fun call => hstops.ne_stop_of_mem_dropLast⟩
  rw [hplain]
  exact hstops.completed_eq_false_iff

end Handlers

namespace Sample

/-- A handler that skips the first tag it sees, says nothing at the second and stops at the third. -/
def counting : Handlers Nat :=
  [("tag", fun seen _ => (seen + 1, if seen = 0 then some .skip else if seen = 1 then none
    else some .stop))]

/-- Four tags, the second and the fourth inside the one before, and one more after them. -/
def tags : Node :=
  { kind := "program", start := 0, stop := 9, children :=
    [{ kind := "tag", start := 0, stop := 3, children := [{ kind := "tag", start := 1, stop := 2 }] },
      { kind := "tag", start := 3, stop := 6, children := [{ kind := "tag", start := 4, stop := 5 }] },
      { kind := "tag", start := 6, stop := 9 }] }

end Sample

theorem Handlers.walk_eq_recurse_counting :
    walk (dispatch Sample.counting) 0 Sample.tags = (3, false) ∧
    ((walk (dispatch Sample.counting.logged) (0, []) Sample.tags).1.2.map fun call =>
      (call.node.start, call.answer)) = [(0, some .skip), (3, none), (4, some .stop)] ∧
    (∃ call ∈ (Sample.tags.recurse Sample.counting 0).calls, call.answer = some .stop) ∧
    ∀ call ∈ (Sample.tags.recurse Sample.counting 0).calls.dropLast, call.answer ≠ some .stop := by
  obtain ⟨hwalk, hlogged, hstop, hlast⟩ := walk_eq_recurse Sample.counting 0 Sample.tags
  refine ⟨hwalk.trans rfl, ?_, hstop.1 (by rw [hwalk]; rfl), hlast⟩
  rw [hlogged]
  rfl

end MarkupCensus
