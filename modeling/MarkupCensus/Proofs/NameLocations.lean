import MarkupCensus.Proofs.Encoding
import MarkupCensus.Proofs.SourceOrder

namespace MarkupCensus

namespace Utf8

theorem encode_cons (c : Char) (cs : List Char) :
    encode (c :: cs) = String.utf8EncodeChar c ++ encode cs := List.flatMap_cons

theorem encode_append (as bs : List Char) : encode (as ++ bs) = encode as ++ encode bs :=
  List.flatMap_append

/-- The bytes of a character: below U+0080 its number, and otherwise a byte that is beyond ASCII with
continuation bytes after it. -/
theorem encodeChar_cases (c : Char) :
    (c.toNat < 0x80 ∧ String.utf8EncodeChar c = [UInt8.ofNat c.toNat]) ∨
    (0x80 ≤ c.toNat ∧ ∃ b bs, String.utf8EncodeChar c = b :: bs ∧ 0x80 ≤ b ∧
      ∀ x ∈ bs, isContinuation x = true) := by
  have hlead {k : Nat} (hlow : 128 ≤ k) (hhigh : k < 256) : 0x80 ≤ UInt8.ofNat k := by
    rw [UInt8.le_iff_toNat_le, UInt8.toNat_ofNat_of_lt' hhigh]
    exact hlow
  have hnext {k : Nat} (h : k < 64) : isContinuation (UInt8.ofNat (k + 128)) = true := by
    have hk : (UInt8.ofNat (k + 128)).toNat = k + 128 :=
      UInt8.toNat_ofNat_of_lt' (show k + 128 < 256 by omega)
    rw [isContinuation, Bool.and_eq_true, decide_eq_true_eq, decide_eq_true_eq,
      UInt8.le_iff_toNat_le, UInt8.le_iff_toNat_le, hk]
    exact ⟨show 128 ≤ k + 128 by omega, show k + 128 ≤ 191 by omega⟩
  have hv : c.toNat = c.val.toNat := rfl
  rw [String.utf8EncodeChar.eq_1, hv]
  generalize c.val.toNat = v
  split_ifs with h1 h2 h3
  · exact Or.inl ⟨by omega, rfl⟩
  all_goals
    refine Or.inr ⟨by omega, _, _, rfl, hlead (by omega) (by omega), ?_⟩
    simp only [List.forall_mem_cons, List.not_mem_nil, false_implies, implies_true, and_true]
  · exact hnext (by omega)
  · exact ⟨hnext (by omega), hnext (by omega)⟩
  · exact ⟨hnext (by omega), hnext (by omega), hnext (by omega)⟩

/-- Only a line feed has the byte of a line feed. -/
theorem lineFeed_not_mem_encodeChar {c : Char} (h : c ≠ '\n') :
    (0x0A : UInt8) ∉ String.utf8EncodeChar c := by
  intro hmem
  rcases encodeChar_cases c with ⟨hlt, hc⟩ | ⟨-, b, bs, hc, hb, hbs⟩
  · rw [hc, List.mem_singleton] at hmem
    have hten : (0x0A : UInt8).toNat = c.toNat := by
      rw [hmem]
      exact UInt8.toNat_ofNat_of_lt' (show c.toNat < 256 by omega)
    exact h (Char.toNat_inj.1 hten.symm)
  · rw [hc, List.mem_cons] at hmem
    rcases hmem with rfl | hmem
    · exact absurd hb (by decide)
    · exact absurd (hbs _ hmem) (by decide)

theorem encodeChar_lineFeed : String.utf8EncodeChar '\n' = [0x0A] := rfl

/-- A text has as many line feeds as its bytes. -/
theorem count_encode (cs : List Char) : (encode cs).count 0x0A = cs.count '\n' := by
  induction cs with
  | nil => rfl
  | cons c cs ih =>
    rw [encode_cons, List.count_append, ih]
    by_cases h : c = '\n'
    · rw [h, encodeChar_lineFeed, List.count_singleton_self, List.count_cons_self, Nat.add_comm]
    · rw [List.count_eq_zero.2 (lineFeed_not_mem_encodeChar h), List.count_cons_of_ne h,
        Nat.zero_add]

/-- The last line of a text is the last line of its bytes. -/
theorem rtakeWhile_encode (cs : List Char) :
    (encode cs).rtakeWhile (· != 0x0A) = encode (cs.rtakeWhile (· != '\n')) := by
  induction cs using List.reverseRecOn with
  | nil => rfl
  | append_singleton cs c ih =>
    have hc : encode [c] = String.utf8EncodeChar c := List.append_nil _
    rw [encode_append, hc, List.rtakeWhile_concat]
    by_cases h : c = '\n'
    · rw [h, encodeChar_lineFeed, List.rtakeWhile_concat]
      rfl
    · -- the bytes of any other character stay on the line
      have hall : ∀ b ∈ (String.utf8EncodeChar c).reverse, (b != 0x0A) = true := by
        intro b hb
        have hne : b ≠ 0x0A := by
          rintro rfl
          exact lineFeed_not_mem_encodeChar h (List.mem_reverse.1 hb)
        simpa using hne
      have hne : (c != '\n') = true := by simpa using h
      rw [if_pos hne, encode_append, hc, ← ih, List.rtakeWhile, List.reverse_append,
        List.takeWhile_append_of_pos hall, List.reverse_append, List.reverse_reverse,
        List.rtakeWhile]

/-- Where no character goes on, the text is cut between two characters. -/
theorem exists_append_of_isFresh {cs : List Char} {offset : Nat}
    (hfresh : isFresh ((encode cs).drop offset) = true) (hle : offset ≤ (encode cs).length) :
    ∃ before after, cs = before ++ after ∧ offset = (encode before).length := by
  induction cs generalizing offset with
  | nil => exact ⟨[], [], rfl, Nat.le_zero.1 hle⟩
  | cons c cs ih =>
    by_cases hzero : offset = 0
    · exact ⟨[], c :: cs, rfl, hzero⟩
    rw [encode_cons] at hfresh hle
    rw [List.length_append] at hle
    by_cases hin : offset < (String.utf8EncodeChar c).length
    · -- inside a character stand continuation bytes only
      exfalso
      rcases encodeChar_cases c with ⟨-, hc⟩ | ⟨-, b, bs, hc, -, hbs⟩
      · rw [hc, List.length_singleton] at hin
        omega
      · obtain ⟨k, rfl⟩ : ∃ k, offset = k + 1 := ⟨offset - 1, by omega⟩
        rw [hc, List.length_cons] at hin
        have hk : k < bs.length := by omega
        have hdrop : (b :: bs ++ encode cs).drop (k + 1) =
            bs[k] :: (bs.drop (k + 1) ++ encode cs) := by
          rw [List.cons_append, List.drop_succ_cons, List.drop_append_of_le_length hk.le,
            List.drop_eq_getElem_cons hk, List.cons_append]
        rw [hc, hdrop] at hfresh
        simp [isFresh, hbs _ (List.getElem_mem hk)] at hfresh
    · have hlen : (String.utf8EncodeChar c).length ≤ offset := by omega
      rw [List.drop_append, List.drop_eq_nil_of_le hlen, List.nil_append] at hfresh
      obtain ⟨before, after, rfl, hoffset⟩ := ih hfresh (by omega)
      refine ⟨c :: before, after, rfl, ?_⟩
      rw [encode_cons, List.length_append]
      omega

end Utf8

/-- The location after a text: its line feeds give the line, and the UTF-16 code units after the last
of them, or from the start, give the column. -/
def Location.after (file : String) (before : List Char) : Location where
  file := file
  line := 1 + before.count '\n'
  column := ((before.rtakeWhile (· != '\n')).map fun c => if c.toNat < 0x10000 then 1 else 2).sum

theorem Source.location_encode (before rest : List Char) (file : String) :
    Source.location (Utf8.encode (before ++ rest)) file (Utf8.encode before).length =
      Location.after file before := by
  have htake : (Utf8.encode (before ++ rest)).take (Utf8.encode before).length =
      Utf8.encode before := by
    rw [Utf8.encode_append, List.take_left']
    rfl
  have hrow : Source.row (Utf8.encode (before ++ rest)) (Utf8.encode before).length =
      before.count '\n' := by
    rw [row, htake, Utf8.count_encode]
  have hline : Source.linePart (Utf8.encode (before ++ rest)) (Utf8.encode before).length =
      Utf8.encode (before.rtakeWhile (· != '\n')) := by
    rw [linePart, htake]
    exact Utf8.rtakeWhile_encode before
  rw [location, hrow, hline, Utf8.decode_encode, Utf8.units16_eq_sum, Nat.add_comm]
  rfl

/-- The location of any place between two characters of a text. -/
theorem Source.exists_location_eq {text : List Char} {offset : Nat}
    (hb : Source.isBoundary (Utf8.encode text) offset = true)
    (hle : offset ≤ (Utf8.encode text).length) (file : String) :
    ∃ before rest, text = before ++ rest ∧ offset = (Utf8.encode before).length ∧
      Source.location (Utf8.encode text) file offset = Location.after file before := by
  obtain ⟨before, rest, rfl, rfl⟩ := Utf8.exists_append_of_isFresh hb hle
  exact ⟨before, rest, rfl, rfl, location_encode before rest file⟩

theorem file_of_mem_recordedUses {config : ScanConfig} {f : SourceFile}
    {parsed : Except ParseFailure Node} {u : TagUse} (h : u ∈ recordedUses config f parsed) :
    u.file = f := by
  unfold recordedUses at h
  split at h
  · cases h
  · split at h
    · cases h
    · obtain ⟨m, -, hr⟩ := Node.exists_reading_of_mem_readings (mem_of_mem_usesBefore h)
      exact (Node.of_reading_accepted hr).2.1

/-- A tag is located by the text before its name, whose start cuts the source text between two
characters. The line is one more than the line feeds before the name, and the column is the number of
UTF-16 code units after the last of them. So is every tag that a scan records. -/
theorem scan_locates_names (text : List Char) (file : String) :
    (∀ (tag name : Node) (use : Instance), tag.child? "name" = some name →
      Source.isBoundary (Utf8.encode text) name.start = true →
      name.start ≤ (Utf8.encode text).length → tag.use (Utf8.encode text) file = .ok use →
      ∃ before rest, text = before ++ rest ∧ name.start = (Utf8.encode before).length ∧
        use.location = Location.after file before) ∧
    ∀ (config : ScanConfig) (parsed : Except ParseFailure Node) (r : Report),
      (scan config ⟨file, Utf8.encode text⟩ parsed r).1 =
        r.record (recordedUses config ⟨file, Utf8.encode text⟩ parsed) ∧
      ∀ u ∈ recordedUses config ⟨file, Utf8.encode text⟩ parsed,
        Source.isBoundary (Utf8.encode text) u.offset = true →
        u.offset ≤ (Utf8.encode text).length →
        ∃ before rest, text = before ++ rest ∧ u.offset = (Utf8.encode before).length ∧
          u.use.location = Location.after file before := by
  constructor
  · intro tag name use hname hb hle hu
    rw [Node.use, hname] at hu
    rw [Node.location_foldlM_addAttribute hu]
    exact Source.exists_location_eq hb hle file
  · intro config parsed r
    constructor
    · rw [scan_eq_record]
    · intro u hu hb hle
      rw [u.location_eq, file_of_mem_recordedUses hu]
      exact Source.exists_location_eq hb hle file

namespace Sample

/-- A line of one letter in two bytes, and a tag after a comment with a character beyond U+FFFF. -/
def smile : List Char := "é\n/*😀*/<A/>".toList

theorem use_smile : (tag "identifier" 12 13).use (Utf8.encode smile) "smile.jsx" =
    .ok { location := ⟨"smile.jsx", 2, 7⟩ } := by cbv

/-- The characters of the nested source. -/
def nestedText : List Char := "/*é*/<A \x7b...<B/>\x7d/>;\n<C/>".toList

theorem encode_nestedText : Utf8.encode nestedText = nested := by decide

theorem recordedUses_nested_laidOut : ∀ u ∈ recordedUses {} nestedFile (.ok nestedRoot),
    nested.isBoundary u.offset = true ∧ u.offset ≤ nested.length := by
  obtain ⟨imports, hsub⟩ := recordedUses_sublist_usesIn {} nestedFile nestedRoot
  intro u hu
  obtain ⟨-, name, hname, hoffset⟩ := Node.exists_name_of_mem_usesIn (hsub.subset hu)
  have hlaid := nestedRoot_isLaidOut name hname
  rw [hoffset]
  exact ⟨hlaid.boundary, hlaid.start_le_stop.trans hlaid.stop_le⟩

end Sample

/-- The face counts two units of the column, and the letter before the line feed none. -/
theorem scan_locates_names_smile :
    ((Sample.tag "identifier" 12 13).use (Utf8.encode Sample.smile) "smile.jsx" =
        .ok { location := ⟨"smile.jsx", 2, 7⟩ } ∧
      ∃ before rest, Sample.smile = before ++ rest ∧ 12 = (Utf8.encode before).length ∧
        ⟨"smile.jsx", 2, 7⟩ = Location.after "smile.jsx" before) ∧
    (recordedUses {} Sample.nestedFile (.ok Sample.nestedRoot)).map (·.use.location) =
      [⟨"nested.jsx", 1, 6⟩, ⟨"nested.jsx", 1, 13⟩, ⟨"nested.jsx", 2, 1⟩] ∧
    ∀ u ∈ recordedUses {} Sample.nestedFile (.ok Sample.nestedRoot),
      ∃ before rest, Sample.nestedText = before ++ rest ∧
        u.offset = (Utf8.encode before).length ∧
        u.use.location = Location.after "nested.jsx" before := by
  have hnested := (scan_locates_names Sample.nestedText "nested.jsx").2 {} (.ok Sample.nestedRoot) []
  rw [Sample.encode_nestedText] at hnested
  refine ⟨⟨Sample.use_smile, ?_⟩, Sample.recordedUses_nested, ?_⟩
  · exact (scan_locates_names Sample.smile "smile.jsx").1 (Sample.tag "identifier" 12 13)
      (Sample.name "identifier" 12 13) _ rfl (by decide) (by decide) Sample.use_smile
  · intro u hu
    obtain ⟨hb, hle⟩ := Sample.recordedUses_nested_laidOut u hu
    exact hnested.2 u hu hb hle

end MarkupCensus
