import MarkupCensus.Project.Files

namespace MarkupCensus

/-- Directories of others' code, of products and of tools. -/
def excludedDirectories : List String :=
  ["node_modules", "bower_components", "vendor", "third_party", "dist", "build", "out", "coverage",
   "storybook-static", ".git", ".hg", ".svn", ".next", ".nuxt", ".cache", ".turbo", "venv", ".venv",
   "__pycache__"]

def testEndings : List String :=
  [".test.", ".spec."].flatMap fun mark =>
    ["", "c", "m"].flatMap fun flavour =>
      ["js", "ts", "jsx", "tsx"].map fun language => mark ++ flavour ++ language

/-- Lower case in which the long s is an s. -/
def plainLower (name : String) : List Char :=
  (Case.lowerCase name.toList).map fun c => if c.toNat == 0x17F then 's' else c

/-- Whether a file of the given name, whose case does not matter, tests others. -/
def isTestName (name : String) : Bool :=
  testEndings.any fun e => e.toList.isSuffixOf (plainLower name)

structure Search where
  root : Path
  exclude : List String := []
  includeTests : Bool := false

namespace Search

/-- Whether the names between the root and a file let it be found. -/
def wants (s : Search) (parts : List String) : Bool :=
  let name := parts.getLastD ""
  !(parts.dropLast.any fun d => excludedDirectories.contains d || s.exclude.contains d)
    && isSourceName name && (s.includeTests || !isTestName name)

/-- The sources of a project, in the order of their paths. A root that is a file stands for itself. -/
def run (s : Search) (files : FileSystem) : List Path :=
  if files.isFile s.root then [s.root]
  else
    let found := (((files.find? s.root).map (Entry.leavesOf [] ·.entries)).getD []).filter fun parts =>
      s.wants parts && files.isFile (s.root.append parts)
    (found.mergeSort Path.precedes).map s.root.append

end Search

end MarkupCensus
