import MarkupCensus.Proofs.FileNames
import MarkupCensus.Proofs.FileTrees

namespace MarkupCensus

namespace Path

theorem precedes_iff {p q : List String} : precedes p q = true ↔ p < q ∨ p = q := by
  induction p generalizing q with
  | nil => cases q <;> simp [precedes]
  | cons a p ih =>
    cases q with
    | nil => simp [precedes]
    | cons b q =>
      rw [List.cons_lt_cons_iff, precedes]
      by_cases h : a = b
      · subst h
        simp [ih]
      · have hlt : a ≤ b ↔ a < b := ⟨fun hle => lt_of_le_of_ne hle h, le_of_lt⟩
        simp [h, hlt]

theorem precedes_trans (p q r : List String) (hpq : precedes p q = true)
    (hqr : precedes q r = true) : precedes p r = true := by
  rw [precedes_iff, ← le_iff_lt_or_eq] at *
  exact le_trans hpq hqr

theorem precedes_total (p q : List String) : (precedes p q || precedes q p) = true := by
  rw [Bool.or_eq_true, precedes_iff, precedes_iff, ← le_iff_lt_or_eq, ← le_iff_lt_or_eq]
  exact le_total p q

end Path

namespace Search

variable {s : Search} {files : FileSystem} {root : Entry} {above : List String} {name : String}

/-- What a search finds at the end of some names below its root. -/
structure Finds (s : Search) (files : FileSystem) (above : List String) (name : String) : Prop where
  /-- Only directories are on the way, and what is there is none, though it may be a link. -/
  entry : ∃ dir e, files.find? s.root = some dir ∧ dir.at? (above ++ [name]) = some e ∧
    e.isDirectoryEntry = false
  file : files.isFile (s.root.append (above ++ [name])) = true
  above : ∀ d ∈ above, d ∉ excludedDirectories ∧ d ∉ s.exclude
  source : IsSourceName name
  test : s.includeTests = true ∨ ¬IsTestName name

theorem wants_concat_iff : s.wants (above ++ [name]) = true ↔
    (∀ d ∈ above, d ∉ excludedDirectories ∧ d ∉ s.exclude) ∧ IsSourceName name ∧
      (s.includeTests = true ∨ ¬IsTestName name) := by
  have habove : (!above.any fun d => excludedDirectories.contains d || s.exclude.contains d) = true ↔
      ∀ d ∈ above, d ∉ excludedDirectories ∧ d ∉ s.exclude := by
    simp only [Bool.not_eq_true', List.any_eq_false, Bool.or_eq_true, List.contains_iff_mem, not_or]
  rw [wants, List.getLastD_concat, List.dropLast_concat, Bool.and_eq_true, Bool.and_eq_true, habove,
    isSourceName_iff, Bool.or_eq_true, Bool.not_eq_true', ← Bool.not_eq_true, and_assoc]
  refine and_congr_right fun _ => and_congr_right fun hsource => ?_
  rw [isTestName_iff hsource]

/-- The paths below the root that a search finds, as directories list them. -/
def found (s : Search) (files : FileSystem) (dir : Entry) : List (List String) :=
  (dir.leaves []).filter fun parts => s.wants parts && files.isFile (s.root.append parts)

theorem run_eq {es : List (String × Entry)} (h : files.find? s.root = some (.directory es)) :
    s.run files = ((s.found files (.directory es)).mergeSort Path.precedes).map s.root.append := by
  have hfile : files.isFile s.root = false := by rw [FileSystem.isFile, FileSystem.read?, h]; rfl
  rw [run, hfile, h]
  rfl

theorem isTree_of_find? (h : files.root.IsTree) {path : Path} {e : Entry}
    (he : files.find? path = some e) : e.IsTree := by
  obtain ⟨place, -, hplace⟩ := Option.bind_eq_some_iff.1 he
  exact h.of_at? hplace

/-- Nothing is listed twice, and the listing is in order. -/
theorem pairwise_run (h : files.root.IsTree) (hroot : files.isDirectory s.root = true) :
    (s.run files).Pairwise fun p q => p.parts < q.parts := by
  obtain ⟨es, hdir⟩ := FileSystem.isDirectory_iff.1 hroot
  have hsorted := List.pairwise_mergeSort Path.precedes_trans Path.precedes_total
    (s.found files (.directory es))
  have hnodup : ((s.found files (.directory es)).mergeSort Path.precedes).Nodup :=
    (List.mergeSort_perm _ _).nodup_iff.2 ((Entry.nodup_leaves (isTree_of_find? h hdir)).filter _)
  rw [run_eq hdir, List.pairwise_map]
  refine hsorted.imp₂ ?_ hnodup
  intro p q hpq hne
  exact List.append_left_lt ((Path.precedes_iff.1 hpq).resolve_right hne)

theorem mem_run_iff (h : files.root.IsTree) (hroot : files.isDirectory s.root = true) {path : Path} :
    path ∈ s.run files ↔
      ∃ above name, path = s.root.append (above ++ [name]) ∧ s.Finds files above name := by
  obtain ⟨es, hdir⟩ := FileSystem.isDirectory_iff.1 hroot
  rw [run_eq hdir, List.mem_map]
  simp only [List.mem_mergeSort, found, List.mem_filter, Bool.and_eq_true,
    Entry.mem_leaves_iff (isTree_of_find? h hdir)]
  constructor
  · rintro ⟨parts, ⟨⟨e, he, hleaf⟩, hwants, hfile⟩, rfl⟩
    rcases List.eq_nil_or_concat parts with rfl | ⟨above, name, rfl⟩
    · cases he
      cases hleaf
    · rw [List.concat_eq_append] at *
      obtain ⟨habove, hsource, htest⟩ := wants_concat_iff.1 hwants
      exact ⟨above, name, rfl, ⟨⟨_, e, hdir, he, hleaf⟩, hfile, habove, hsource, htest⟩⟩
  · rintro ⟨above, name, rfl, hf⟩
    obtain ⟨dir, e, hdir', he, hleaf⟩ := hf.entry
    obtain rfl : .directory es = dir := Option.some.inj (hdir.symm.trans hdir')
    exact ⟨_, ⟨⟨e, he, hleaf⟩, wants_concat_iff.2 ⟨hf.above, hf.source, hf.test⟩, hf.file⟩, rfl⟩

/-- In trees alike the same is found. -/
theorem Finds.of_alike (hf : s.Finds files above name) (h : Entry.Alike files.root root) :
    s.Finds { files with root := root } above name := by
  obtain ⟨dir, e, hdir, he, hleaf⟩ := hf.entry
  obtain ⟨dir', hdir', hbelow⟩ := FileSystem.exists_find?_of_alike h hdir
  obtain ⟨e', he', hend⟩ := hbelow.exists_at? he
  have hleaf' : e'.isDirectoryEntry = false := by rw [← hend.isDirectoryEntry_eq, hleaf]
  exact ⟨⟨dir', e', hdir', he', hleaf'⟩, FileSystem.isFile_of_alike h hf.file, hf.above, hf.source,
    hf.test⟩

/-- A search lists, once and in the order of their paths, exactly the files, and links to files, that
directories lead to below its root, none of them excluded, under the names of sources, and of tests only
if these are wanted. The order in which the directories list their entries does not show. -/
theorem run_lists_sources (s : Search) (files : FileSystem) (h : files.root.IsTree)
    (hroot : files.isDirectory s.root = true) :
    (s.run files).Pairwise (fun p q => p.parts < q.parts) ∧
      (∀ path, path ∈ s.run files ↔
        ∃ above name, path = s.root.append (above ++ [name]) ∧ s.Finds files above name) ∧
      ∀ root, files.root.Reordered root → s.run { files with root := root } = s.run files := by
  refine ⟨pairwise_run h hroot, fun path => mem_run_iff h hroot, ?_⟩
  intro root hre
  obtain ⟨h', halike⟩ := hre.alike h
  have hroot' := FileSystem.isDirectory_of_alike halike hroot
  have hirrefl : Std.Irrefl fun p q : Path => p.parts < q.parts := ⟨fun p => List.lt_irrefl p.parts⟩
  have hasymm : Std.Asymm fun p q : Path => p.parts < q.parts := ⟨fun _ _ => List.lt_asymm⟩
  refine List.Pairwise.eq_of_mem_iff (pairwise_run h' hroot') (pairwise_run h hroot) ?_
  intro path
  rw [mem_run_iff h' hroot', mem_run_iff h hroot]
  constructor
  · rintro ⟨above, name, rfl, hf⟩
    exact ⟨above, name, rfl, hf.of_alike halike.symm⟩
  · rintro ⟨above, name, rfl, hf⟩
    exact ⟨above, name, rfl, hf.of_alike halike⟩

end Search

namespace Sample

/-- An application with a page, products, a test, links, and declarations. -/
def app : List (String × Entry) :=
  [("pages", .directory [("Home.JSX", .file []), ("home.test.jsx", .file [])]),
   ("dist", .directory [("main.js", .file [])]),
   ("types.d.ts", .file []),
   ("index.tsx", .link "pages/Home.JSX"),
   ("lost.tsx", .link "nowhere.tsx"),
   ("views", .link "pages")]

/-- The application in a directory of the working directory. -/
def project (app : List (String × Entry)) : FileSystem where
  root := .directory [("home", .directory [("build", .directory app)])]
  working := ["home"]

def search : Search := { root := { parts := ["build"] } }

end Sample

open Sample in
theorem Search.run_lists_sources_app : (project app).root.IsTree ∧
    (project app).isDirectory search.root = true ∧
    (project app).root.Reordered (project app.reverse).root ∧
    { parts := ["build", "index.tsx"] } ∈ search.run (project app) ∧
    { parts := ["build", "pages", "Home.JSX"] } ∈ search.run (project app) ∧
    { parts := ["build", "dist", "main.js"] } ∉ search.run (project app) ∧
    search.run (project app.reverse) = search.run (project app) := by
  have htree : (project app).root.IsTree := by
    simp [project, app, Entry.isTree_directory, Entry.IsTree.file, Entry.IsTree.link]
  have hroot : (project app).isDirectory search.root = true := by decide +kernel
  have hre : (project app).root.Reordered (project app.reverse).root :=
    @Entry.Reordered.inside [] [] "home" _ _
      (@Entry.Reordered.inside [] [] "build" _ _ (.here (List.reverse_perm app).symm))
  obtain ⟨-, hmem, horder⟩ := run_lists_sources search (project app) htree hroot
  have hsource (name : String) (h : isSourceName name = true) (ht : isTestName name = false) :
      IsSourceName name ∧ ¬IsTestName name := by
    have hs := (isSourceName_iff name).1 h
    exact ⟨hs, fun hn => by simp [(isTestName_iff hs).2 hn] at ht⟩
  refine ⟨htree, hroot, hre, (hmem _).2 ?_, (hmem _).2 ?_, ?_, horder _ hre⟩
  · obtain ⟨hs, ht⟩ := hsource "index.tsx" (by decide +kernel) (by decide +kernel)
    exact ⟨[], "index.tsx", rfl, ⟨⟨_, _, rfl, rfl, rfl⟩, by decide +kernel, by simp, hs, Or.inr ht⟩⟩
  · obtain ⟨hs, ht⟩ := hsource "Home.JSX" (by decide +kernel) (by decide +kernel)
    exact ⟨["pages"], "Home.JSX", rfl,
      ⟨⟨_, _, rfl, rfl, rfl⟩, by decide +kernel, by decide +kernel, hs, Or.inr ht⟩⟩
  · rw [hmem]
    rintro ⟨above, name, hpath, hf⟩
    have hparts : ["dist"] ++ ["main.js"] = above ++ [name] := by
      simpa [Path.append, search] using congrArg Path.parts hpath
    obtain ⟨rfl, -⟩ := List.append_inj' hparts rfl
    exact (hf.above "dist" (by simp)).1 (by decide +kernel)

end MarkupCensus
