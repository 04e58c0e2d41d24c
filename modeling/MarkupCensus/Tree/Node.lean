import MarkupCensus.Text.Utf8

namespace MarkupCensus

/-- The bytes of a source file. -/
abbrev Source := List UInt8

/-- A place in a source. Lines and columns count from one, columns in bytes. -/
structure Position where
  line : Nat
  column : Nat
deriving DecidableEq, Repr

namespace Source

def slice (src : Source) (start stop : Nat) : List UInt8 := (src.drop start).take (stop - start)

def row (src : Source) (offset : Nat) : Nat := (src.take offset).count 0x0A

/-- The bytes between an offset and the line feed before it. -/
def linePart (src : Source) (offset : Nat) : List UInt8 :=
  ((src.take offset).reverse.takeWhile (· != 0x0A)).reverse

def position (src : Source) (offset : Nat) : Position where
  line := src.row offset + 1
  column := (src.linePart offset).length + 1

end Source

/-- A node of a syntax tree over a source: its kind, the bytes it spans, the role it plays in its
parent, whether it is named by the grammar, and whether it is missing from the source. -/
structure Node where
  kind : String
  start : Nat
  stop : Nat
  role : Option String := none
  named : Bool := true
  missing : Bool := false
  children : List Node := []
deriving Repr, Inhabited, BEq

mutual

def Node.size : Node → Nat
  | ⟨_, _, _, _, _, _, cs⟩ => 1 + Node.sizes cs

def Node.sizes : List Node → Nat
  | [] => 0
  | c :: cs => c.size + Node.sizes cs

end

namespace Node

theorem size_eq (n : Node) : n.size = 1 + sizes n.children := by cases n; simp [size]

theorem size_pos (n : Node) : 0 < n.size := by rw [size_eq]; omega

theorem sizes_append (as bs : List Node) : sizes (as ++ bs) = sizes as + sizes bs := by
  induction as with
  | nil => simp [sizes]
  | cons a as ih => simp only [List.cons_append, sizes, ih]; omega

theorem sizes_filter_le (p : Node → Bool) (cs : List Node) : sizes (cs.filter p) ≤ sizes cs := by
  induction cs with
  | nil => simp [sizes]
  | cons c cs ih =>
    rw [List.filter_cons]
    split <;> simp only [sizes] <;> omega

theorem size_le_sizes {c : Node} {cs : List Node} (h : c ∈ cs) : c.size ≤ sizes cs := by
  induction cs with
  | nil => simp at h
  | cons d cs ih =>
    simp only [sizes]
    rcases List.mem_cons.1 h with rfl | h
    · omega
    · have := ih h
      omega

theorem size_lt_of_mem {n c : Node} (h : c ∈ n.children) : c.size < n.size := by
  have := size_le_sizes h
  rw [size_eq n]
  omega

def childrenWhere (p : Node → Bool) (n : Node) : List Node := n.children.filter p

theorem sizes_childrenWhere_lt (p : Node → Bool) (n : Node) : sizes (n.childrenWhere p) < n.size := by
  have := sizes_filter_le p n.children
  rw [size_eq n, childrenWhere]
  omega

/-- The source text of a node. -/
def text (src : Source) (n : Node) : List Char := Utf8.decode (src.slice n.start n.stop)

def strictText (src : Source) (n : Node) : Except Utf8.IllFormed (List Char) :=
  Utf8.decodeStrict (src.slice n.start n.stop)

def namedChildren (n : Node) : List Node := n.children.filter (·.named)

/-- Named children other than comments. -/
def significant (n : Node) : List Node := n.namedChildren.filter (·.kind != "comment")

def child? (n : Node) (role : String) : Option Node := n.children.find? (·.role == some role)

def childrenIn (n : Node) (role : String) : List Node := n.children.filter (·.role == some role)

theorem mem_of_mem_significant {n c : Node} (h : c ∈ n.significant) : c ∈ n.children :=
  (List.mem_filter.1 (List.mem_filter.1 h).1).1

theorem size_lt_of_child? {n c : Node} {role : String} (h : n.child? role = some c) :
    c.size < n.size :=
  size_lt_of_mem (List.mem_of_find?_eq_some h)

end Node

mutual

def Node.hasError : Node → Bool
  | ⟨kind, _, _, _, _, missing, cs⟩ => kind == "ERROR" || missing || Node.anyError cs

def Node.anyError : List Node → Bool
  | [] => false
  | c :: cs => c.hasError || Node.anyError cs

end

end MarkupCensus
