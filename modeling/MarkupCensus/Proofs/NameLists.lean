import Mathlib.Data.List.DropRight
import MarkupCensus.Config.Environment
import MarkupCensus.Proofs.Segments

namespace MarkupCensus

namespace Blank

/-- No white space stands at either end. -/
structure IsTrimmed (cs : List Char) : Prop where
  head_not_blank : ∀ c ∈ cs.head?, isBlank c = false
  last_not_blank : ∀ c ∈ cs.getLast?, isBlank c = false

theorem isTrimmed_trim (cs : List Char) : IsTrimmed (trim cs) where
  head_not_blank c hc := by
    -- trimming the back leaves the first character where it is
    obtain ⟨rest, hrest⟩ : trim cs <+: cs.dropWhile isBlank :=
      List.rdropWhile_prefix isBlank (cs.dropWhile isBlank)
    have hhead : (cs.dropWhile isBlank).head? = some c := by
      rw [← hrest, List.head?_append, Option.mem_def.1 hc, Option.some_or]
    have hfront := List.head?_dropWhile_not isBlank cs
    rw [hhead] at hfront
    exact hfront
  last_not_blank c hc := by
    obtain ⟨hne, hlast⟩ := List.mem_getLast?_eq_getLast hc
    have hback := List.rdropWhile_last_not isBlank (cs.dropWhile isBlank) hne
    rw [hlast]
    exact Bool.eq_false_iff.2 hback

theorem mem_of_mem_trim {cs : List Char} {c : Char} (h : c ∈ trim cs) : c ∈ cs :=
  have hfront := (List.rdropWhile_prefix isBlank (cs.dropWhile isBlank)).mem h
  (List.dropWhile_sublist isBlank).mem hfront

theorem IsTrimmed.trim_eq {cs : List Char} (h : IsTrimmed cs) : trim cs = cs := by
  have hfront : cs.dropWhile isBlank = cs := by
    cases cs with
    | nil => rfl
    | cons c cs =>
      apply List.dropWhile_cons_of_neg
      rw [h.head_not_blank c rfl]
      exact Bool.false_ne_true
  have hback : cs.rdropWhile isBlank = cs := by
    rw [List.rdropWhile_eq_self_iff]
    intro hne
    rw [h.last_not_blank _ (List.getLast?_eq_getLast_of_ne_nil hne)]
    exact Bool.false_ne_true
  calc trim cs = (cs.dropWhile isBlank).rdropWhile isBlank := rfl
    _ = cs := by rw [hfront, hback]

end Blank

namespace NameList

/-- A name as lists of names hold it: not empty, without a comma, and with no white space at its
ends. -/
structure IsName (name : String) : Prop where
  ne_empty : name ≠ ""
  comma_not_mem : ',' ∉ name.toList
  isTrimmed : Blank.IsTrimmed name.toList

variable {name : String} {names : List String}

theorem ofValue_append (as bs : List Char) :
    ofValue (as ++ ',' :: bs) = ofValue as ++ ofValue bs := by
  rw [ofValue, Split.split_append, List.map_append, List.filter_append]
  rfl

/-- A value of several values between commas has the names of each. -/
theorem ofValue_intercalate (values : List (List Char)) :
    ofValue ([','].intercalate values) = values.flatMap ofValue := by
  induction values with
  | nil => rfl
  | cons value values ih =>
    cases values with
    | nil => simp
    | cons next values =>
      rw [List.intercalate_cons_of_ne_nil (List.cons_ne_nil next values), List.append_assoc,
        List.singleton_append, ofValue_append, ih]
      exact List.flatMap_cons.symm

theorem isName_of_mem_ofValues {values : List String} (h : name ∈ ofValues values) :
    IsName name := by
  obtain ⟨cs, hcs, rfl⟩ := List.mem_map.1 h
  obtain ⟨value, -, hvalue⟩ := List.mem_flatMap.1 hcs
  obtain ⟨hpart, hne⟩ := List.mem_filter.1 hvalue
  obtain ⟨part, hsplit, rfl⟩ := List.mem_map.1 hpart
  have hlist : (String.ofList (Blank.trim part)).toList = Blank.trim part := String.toList_ofList
  constructor
  · intro hempty
    rw [← String.toList_eq_nil_iff, hlist] at hempty
    simp [hempty] at hne
  · rw [hlist]
    exact fun hmem => Split.not_mem_of_mem_split hsplit (Blank.mem_of_mem_trim hmem)
  · rw [hlist]
    exact Blank.isTrimmed_trim part

theorem IsName.ofValue_eq (h : IsName name) : ofValue name.toList = [name.toList] := by
  have hne : name.toList.isEmpty = false := by
    rw [List.isEmpty_eq_false_iff, ne_eq, String.toList_eq_nil_iff]
    exact h.ne_empty
  have hsplit : Split.split ',' name.toList = [name.toList] := by
    rw [Split.split_eq_splitOn, List.splitOn_eq_singleton h.comma_not_mem]
  rw [ofValue, hsplit, List.map_singleton, h.isTrimmed.trim_eq, List.filter_singleton, hne]
  rfl

theorem ofValues_cons (value : String) (values : List String) :
    ofValues (value :: values) =
      (ofValue value.toList).map String.ofList ++ ofValues values := by
  rw [ofValues, List.flatMap_cons, List.map_append]
  rfl

/-- Names that are values of their own are read as they are. -/
theorem ofValues_eq_self (h : ∀ name ∈ names, IsName name) : ofValues names = names := by
  induction names with
  | nil => rfl
  | cons name names ih =>
    obtain ⟨hname, hnames⟩ := List.forall_mem_cons.1 h
    rw [ofValues_cons, hname.ofValue_eq, ih hnames, List.map_singleton, String.ofList_toList,
      List.singleton_append]

theorem ofValues_intercalate (values : List String) :
    ofValues [",".intercalate values] = ofValues values := by
  have hcomma : ",".toList = [','] := rfl
  rw [ofValues, ofValues, List.flatMap_singleton, String.toList_intercalate, hcomma,
    ofValue_intercalate, List.flatMap_map]

/-- The values of an option have the names of the one value that joins them by commas, which may also
be the value of a variable. All of them are names, and names are read as they are, whether each is a
value or one value joins them. -/
theorem ofValues_reads_joined (values : List String) :
    ofValues values = ofValues [",".intercalate values] ∧
    (∀ (env : Environment) (key : String),
      env.value? key = some (",".intercalate values) → env.names key = ofValues values) ∧
    (∀ name ∈ ofValues values, IsName name) ∧
    ofValues (ofValues values) = ofValues values ∧
    ∀ names, (∀ name ∈ names, IsName name) → ofValues [",".intercalate names] = names := by
  have hnames : ∀ name ∈ ofValues values, IsName name := fun _ => isName_of_mem_ofValues
  refine ⟨(ofValues_intercalate values).symm, ?_, hnames, ofValues_eq_self hnames, ?_⟩
  · intro env key hvalue
    rw [Environment.names, hvalue, Option.getD_some, ofValues_intercalate]
  · intro names h
    rw [ofValues_intercalate, ofValues_eq_self h]

/-- Values of an option: two names with white space around them, an empty text, commas alone, and a
name between two blanks beyond ASCII. -/
def mixedValues : List String := [" Box\t, Header.Logo", "", ", ,", "\u3000Text\u00a0"]

/-- The environment that has these values in one variable. -/
def joinedValues : Environment := [("COMPONENT_CENSUS_COMPONENTS", ",".intercalate mixedValues)]

/-- The option, the variable and the names themselves all come to the same three names. -/
theorem ofValues_reads_joined_mixed :
    ofValues mixedValues = ["Box", "Header.Logo", "Text"] ∧
    ofValues [",".intercalate mixedValues] = ["Box", "Header.Logo", "Text"] ∧
    joinedValues.names "COMPONENTS" = ["Box", "Header.Logo", "Text"] ∧
    ofValues [",".intercalate ["Box", "Header.Logo", "Text"]] = ["Box", "Header.Logo", "Text"] := by
  obtain ⟨hjoined, hvariable, hnames, -, hread⟩ := ofValues_reads_joined mixedValues
  have hmixed : ofValues mixedValues = ["Box", "Header.Logo", "Text"] := by decide
  have hvalue : joinedValues.value? "COMPONENTS" = some (",".intercalate mixedValues) := by decide
  rw [← hmixed]
  exact ⟨rfl, hjoined.symm, hvariable joinedValues "COMPONENTS" hvalue, hread _ hnames⟩

end NameList

end MarkupCensus
