import MarkupCensus.Proofs.Encoding
import MarkupCensus.Proofs.Escapes
import MarkupCensus.Proofs.Padding

namespace MarkupCensus

namespace Escape

/-- The letters that stand for control characters after a backslash. -/
def controlLetters : List (Char × Char) :=
  [('b', Char.ofNat 8), ('t', Char.ofNat 9), ('n', Char.ofNat 10), ('v', Char.ofNat 11),
   ('f', Char.ofNat 12), ('r', Char.ofNat 13), ('0', Char.ofNat 0)]

/-- The letters that mean something after a backslash. -/
def reserved : List Char := ['x', 'u', 'b', 'f', 'n', 'r', 't', 'v']

def lineTerminators : List Char :=
  [Char.ofNat 10, Char.ofNat 13, Char.ofNat 0x2028, Char.ofNat 0x2029]

/-- The ends of lines, behind which a string goes on if a backslash stands before them. -/
def lineEnds : List (List Char) := [Char.ofNat 13, Char.ofNat 10] :: lineTerminators.map ([·])

/-- The escapes that a character may be written by: its number in hexadecimal digits of either case
or in octal digits, the letter of a control character, or the character itself if it has no other
meaning after a backslash. -/
inductive Spells (c : Char) : List Char → Prop
  | hex {ds : List Char} (hl : ds.length = 2) (hd : ∀ d ∈ ds, Numeral.isDigitOf 16 d = true)
    (hc : Numeral.denoted 16 ds = c.toNat) : Spells c ('\\' :: 'x' :: ds)
  | unicode {ds : List Char} (hl : ds.length = 4) (hd : ∀ d ∈ ds, Numeral.isDigitOf 16 d = true)
    (hc : Numeral.denoted 16 ds = c.toNat) : Spells c ('\\' :: 'u' :: ds)
  | braced {ds : List Char} (hne : ds ≠ []) (hd : ∀ d ∈ ds, Numeral.isDigitOf 16 d = true)
    (hc : Numeral.denoted 16 ds = c.toNat) : Spells c (braced ds)
  | octal {ds : List Char} (hl : 1 ≤ ds.length ∧ ds.length ≤ 3)
    (hd : ∀ d ∈ ds, Numeral.isDigitOf 8 d = true) (hc : Numeral.denoted 8 ds = c.toNat)
    (hlt : c.toNat < 0x100) : Spells c ('\\' :: ds)
  | letter {d : Char} (hd : (d, c) ∈ controlLetters) : Spells c ['\\', d]
  | itself (hc : c ∉ reserved) (ho : Numeral.isDigitOf 8 c = false) (hl : c ∉ lineTerminators) :
    Spells c ['\\', c]

theorem map_codePoint_toNat (c : Char) :
    (codePoint c.toNat).map ([·]) = (.ok [CodePoint.ofChar c] : Except LiteralFault Text) := by
  rw [codePoint_of_lt (CodePoint.char_lt c)]
  rfl

theorem number_eq_denoted (ds : List Char) : number ds = Numeral.denoted 16 ds :=
  Numeral.ofDigits_filterMap 16 ds

theorem isOctalDigit_eq (c : Char) : isOctalDigit c = Numeral.isDigitOf 8 c := by
  rw [Bool.eq_iff_iff]
  constructor
  · exact fun h => (isOctalDigit_spec h).1
  · intro h
    exact forall_ascii (P := fun c => Numeral.isDigitOf 8 c = true → isOctalDigit c = true)
      (by decide +kernel) (Numeral.lt_of_isPart (Numeral.isPart_of_isDigitOf h)) h

theorem decode_letter {c d : Char} (h : (d, c) ∈ controlLetters) :
    decode ['\\', d] = .ok [CodePoint.ofChar c] := by
  simp only [controlLetters, List.mem_cons, Prod.mk.injEq, List.not_mem_nil, or_false] at h
  rcases h with ⟨rfl, rfl⟩ | ⟨rfl, rfl⟩ | ⟨rfl, rfl⟩ | ⟨rfl, rfl⟩ | ⟨rfl, rfl⟩ | ⟨rfl, rfl⟩ | ⟨rfl, rfl⟩
  all_goals rfl

theorem decode_lineEnd {cs : List Char} (h : cs ∈ lineEnds) : decode ('\\' :: cs) = .ok [] := by
  simp only [lineEnds, lineTerminators, List.map_cons, List.map_nil, List.mem_cons,
    List.not_mem_nil, or_false] at h
  rcases h with rfl | rfl | rfl | rfl | rfl
  all_goals rfl

theorem mem_lineTerminators {c : Char} (h : isLineTerminator c = true) : c ∈ lineTerminators := by
  simp only [isLineTerminator, Bool.or_eq_true, beq_iff_eq] at h
  rcases h with ((rfl | rfl) | h) | h
  · decide
  · decide
  · rw [← Char.ofNat_toNat c, h]
    decide
  · rw [← Char.ofNat_toNat c, h]
    decide

theorem simple?_eq_none {c : Char} (hc : c ∉ reserved) (ho : c ≠ '0') : simple? c = none := by
  unfold simple?
  split
  all_goals simp_all [reserved]

theorem decode_itself {c : Char} (hc : c ∉ reserved) (ho : Numeral.isDigitOf 8 c = false)
    (hl : c ∉ lineTerminators) : decode ['\\', c] = .ok [CodePoint.ofChar c] := by
  have hx : c ≠ 'x' := by
    rintro rfl
    exact hc (by decide)
  have hu : c ≠ 'u' := by
    rintro rfl
    exact hc (by decide)
  have hzero : c ≠ '0' := by
    rintro rfl
    cases ho
  -- what is left is that it neither ends a line nor is one of the letters
  have hline : isLineTerminator c = false := Bool.eq_false_iff.2 fun h => hl (mem_lineTerminators h)
  rw [decode_single hx hu ((isOctalDigit_eq c).trans ho), hline, simple?_eq_none hc hzero]
  rfl

/-- Every escape of a character is read as that character. -/
theorem decode_of_spells {c : Char} {text : List Char} (h : Spells c text) :
    decode text = .ok [CodePoint.ofChar c] := by
  cases h with
  | hex hl hd hc => rw [decode_hex hl hd, number_eq_denoted, hc, map_codePoint_toNat]
  | unicode hl hd hc => rw [decode_unicode hl hd, number_eq_denoted, hc, map_codePoint_toNat]
  | braced hne hd hc => rw [decode_braced hne hd, number_eq_denoted, hc, map_codePoint_toNat]
  | octal hl hd hc =>
    have hoctal := fun d h => (isOctalDigit_eq d).trans (hd d h)
    rw [decode_octal (List.ne_nil_of_length_pos hl.1) hoctal, hc, map_codePoint_toNat]
  | letter hd => exact decode_letter hd
  | itself hc ho hl => exact decode_itself hc ho hl

end Escape

namespace Node

/-- A node covers the bytes of a text in UTF-8. -/
def Spans (src : Source) (n : Node) (cs : List Char) : Prop :=
  src.slice n.start n.stop = Utf8.encode cs

/-- The parts of a string literal between its quotes, and the characters that they spell. -/
inductive Spelling (src : Source) : List Node → List Char → Prop
  | nil : Spelling src [] []
  | fragment {n : Node} {ns : List Node} {cs ds : List Char} (kind : n.kind = "string_fragment")
    (spans : n.Spans src cs) (rest : Spelling src ns ds) : Spelling src (n :: ns) (cs ++ ds)
  | escape {n : Node} {ns : List Node} {c : Char} {text cs : List Char}
    (kind : n.kind = "escape_sequence") (spans : n.Spans src text) (spells : Escape.Spells c text)
    (rest : Spelling src ns cs) : Spelling src (n :: ns) (c :: cs)
  | lineEnd {n : Node} {ns : List Node} {text cs : List Char} (kind : n.kind = "escape_sequence")
    (spans : n.Spans src ('\\' :: text)) (ends : text ∈ Escape.lineEnds)
    (rest : Spelling src ns cs) : Spelling src (n :: ns) cs

/-- A quote of either sort. -/
def isQuote (n : Node) : Bool := n.kind == "\"" || n.kind == "'"

/-- A string literal: two quotes, and a spelling of a string between them. -/
inductive Quotes (src : Source) (n : Node) (s : String) : Prop
  | mk {first last : Node} {parts : List Node} (kind : n.kind = "string")
    (children : n.children = first :: (parts ++ [last])) (opens : first.isQuote = true)
    (closes : last.isQuote = true) (spelling : Spelling src parts s.toList)

section Parts

variable {src : Source} {n : Node} {cs : List Char}

theorem Spans.text (h : n.Spans src cs) : n.text src = cs := by rw [Node.text, h, Utf8.decode_encode]

theorem stringPart_of_isQuote (h : n.isQuote = true) : n.stringPart src = .ok [] := by
  rw [isQuote, Bool.or_eq_true, beq_iff_eq, beq_iff_eq] at h
  rcases h with h | h <;> simp [stringPart, h]

theorem Spans.stringPart_of_fragment (ht : n.Spans src cs) (h : n.kind = "string_fragment") :
    n.stringPart src = .ok (cs.map CodePoint.ofChar) := by
  simp [stringPart, h, ht.text]

theorem Spans.stringPart_of_escape (ht : n.Spans src cs) (h : n.kind = "escape_sequence") :
    n.stringPart src = Escape.decode cs := by
  simp [stringPart, h, ht.text]

/-- The parts of a string are read one after the other, up to the closing quote. -/
theorem Spelling.mapM_stringPart {parts : List Node} {last : Node} (h : Spelling src parts cs)
    (hlast : last.isQuote = true) :
    ((parts ++ [last]).mapM (stringPart src)).map List.flatten = .ok (cs.map CodePoint.ofChar) := by
  induction h with
  | nil =>
    rw [List.nil_append, map_flatten_mapM_cons, stringPart_of_isQuote hlast]
    rfl
  | fragment kind spans _ ih =>
    rw [List.cons_append, map_flatten_mapM_cons, spans.stringPart_of_fragment kind, ih,
      List.map_append]
    rfl
  | escape kind spans spells _ ih =>
    rw [List.cons_append, map_flatten_mapM_cons, spans.stringPart_of_escape kind,
      Escape.decode_of_spells spells, ih]
    rfl
  | lineEnd kind spans ends _ ih =>
    rw [List.cons_append, map_flatten_mapM_cons, spans.stringPart_of_escape kind,
      Escape.decode_lineEnd ends, ih]
    rfl

end Parts

/-- A string literal has the string as its value, however its characters are spelled and wherever
its lines are broken. -/
theorem literalValue_of_quotes {src : Source} {n : Node} {s : String} (h : n.Quotes src s) :
    n.literalValue src false = .ok (.text (Text.ofString s)) := by
  obtain ⟨kind, children, opens, closes, spelling⟩ := h
  -- the opening quote is the first part, the closing one the last, and both stand for nothing
  have hparts : n.stringValue src = (n.children.mapM (stringPart src)).map List.flatten := by
    rw [stringValue]
    cases n.children.mapM (stringPart src) <;> rfl
  rw [children, map_flatten_mapM_cons, stringPart_of_isQuote opens,
    spelling.mapM_stringPart closes] at hparts
  simp only [literalValue, kind, hparts]
  rfl

end Node

namespace Sample

/-- A string literal whose characters are spelled in different ways, with its line broken once. -/
def mixedSource : Source :=
  Utf8.encode "'aé\\x4A\\u20aC\\u\x7b0001F600\x7d\\\r\n\\101\\n\\8'".toList

def piece (kind : String) (start stop : Nat) : Node := { kind := kind, start := start, stop := stop }

def mixedParts : List Node :=
  [piece "string_fragment" 1 4, piece "escape_sequence" 4 8, piece "escape_sequence" 8 14,
   piece "escape_sequence" 14 26, piece "escape_sequence" 26 29, piece "escape_sequence" 29 33,
   piece "escape_sequence" 33 35, piece "escape_sequence" 35 37]

def mixedLiteral : Node :=
  { kind := "string", start := 0, stop := 38
    children := piece "'" 0 1 :: (mixedParts ++ [piece "'" 37 38]) }

theorem spells_mixed : Escape.Spells 'J' "\\x4A".toList ∧ Escape.Spells '€' "\\u20aC".toList ∧
    Escape.Spells '😀' "\\u\x7b0001F600\x7d".toList ∧ Escape.Spells 'A' "\\101".toList ∧
    Escape.Spells '\n' "\\n".toList ∧ Escape.Spells '8' "\\8".toList := by
  have hdigits {base : Nat} {ds : List Char} (h : ds.all (Numeral.isDigitOf base) = true) :
      ∀ d ∈ ds, Numeral.isDigitOf base d = true := List.all_eq_true.1 h
  have hdenoted {base n : Nat} {ds : List Char}
      (h : Numeral.ofDigits base (ds.filterMap Digit.hexValue?) = n) : Numeral.denoted base ds = n :=
    (Numeral.ofDigits_filterMap base ds).symm.trans h
  refine ⟨.hex rfl (hdigits rfl) (hdenoted rfl), .unicode rfl (hdigits rfl) (hdenoted rfl), ?_,
    .octal (by decide) (hdigits rfl) (hdenoted rfl) (by decide), .letter (by decide),
    .itself (by decide) rfl (by decide)⟩
  exact @Escape.Spells.braced _ "0001F600".toList (by decide) (hdigits rfl) (hdenoted rfl)

theorem spelling_mixedParts : Node.Spelling mixedSource mixedParts "aéJ€😀A\n8".toList := by
  obtain ⟨hJ, heuro, hface, hA, hline, height⟩ := spells_mixed
  refine @Node.Spelling.fragment _ _ _ ['a', 'é'] _ rfl (by rfl) ?_
  refine .escape rfl (by rfl) hJ (.escape rfl (by rfl) heuro (.escape rfl (by rfl) hface ?_))
  refine @Node.Spelling.lineEnd _ _ _ ['\r', '\n'] _ rfl (by rfl) (by decide) ?_
  exact .escape rfl (by rfl) hA (.escape rfl (by rfl) hline (.escape rfl (by rfl) height .nil))

end Sample

/-- A literal with characters by themselves, by numbers of all sorts, by a letter and by a digit that is
not octal. -/
theorem Node.literalValue_of_quotes_mixed :
    Sample.mixedLiteral.Quotes Sample.mixedSource "aéJ€😀A\n8" ∧
      Sample.mixedLiteral.literalValue Sample.mixedSource false =
        .ok (.text (Text.ofString "aéJ€😀A\n8")) := by
  have hquotes : Sample.mixedLiteral.Quotes Sample.mixedSource "aéJ€😀A\n8" :=
    ⟨rfl, rfl, rfl, rfl, Sample.spelling_mixedParts⟩
  exact ⟨hquotes, literalValue_of_quotes hquotes⟩

end MarkupCensus
