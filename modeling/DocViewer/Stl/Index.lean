import DocViewer.Disk.Page
import DocViewer.Stl.Entry
import DocViewer.Stl.Page
import DocViewer.Link.Target
import DocViewer.Text.Lines

/-!
# The index of the library

The index maps terms to the paths of their pages. It is read from the lines of the index page, where a later entry of a
term replaces an earlier one. The strings are described on the page of `basic_string`, so its entries are entries of
`string` and `wstring` too.
-/

namespace DocViewer.Stl

/-! ## Terms in order -/

/-- Terms with their paths, in ascending order. -/
abbrev TermMap := List (Text × Text)

namespace TermMap

/-- Adds a term, or replaces its path. -/
def insert (term path : Text) : TermMap → TermMap
  | [] => [(term, path)]
  | (t, p) :: m =>
    if term < t then (term, path) :: (t, p) :: m
    else if term = t then (term, path) :: m
    else (t, p) :: insert term path m

def find? (m : TermMap) (term : Text) : Option Text := m.lookup term

end TermMap

/-! ## Reading the index page -/

def basicString : Text := "basic_string".toList

/-- The terms that are described on the page of `basic_string`. -/
def basicStringAliases : List Text := ["string".toList, "wstring".toList]

/-- The terms that an entry defines. -/
def Entry.terms (e : Entry) : List Text :=
  if e.term = basicString then basicStringAliases ++ [e.term] else [e.term]

/-- Adds the terms of an entry. -/
def addEntry (root : Text) (m : TermMap) (e : Entry) : TermMap :=
  e.terms.foldl (fun m term => m.insert term (Path.join root e.href)) m

/-- The terms of the index page of the documentation at `root`. -/
def parseIndex (root page : Text) : TermMap := ((lines page).filterMap Entry.ofLine?).foldl (addEntry root) []

/-! ## The index -/

/-- How reading the index page went. -/
inductive Status
  /-- There is no documentation. -/
  | missing (root : Text)
  | unreadable (path : Text) (fault : Fault)
  | loaded (terms : Nat)
  deriving DecidableEq

def Status.message : Status → Text
  | .missing root =>
    "STL documentation not installed (".toList ++ root ++ " missing). install package \"stl-manual\".".toList
  | .unreadable path fault => "cannot read STL index ".toList ++ path ++ ": ".toList ++ fault.message
  | .loaded terms => "Learned of ".toList ++ (toString terms).toList ++ " STL terms.".toList

structure Index where
  root : Text
  terms : TermMap
  status : Status
  deriving DecidableEq

namespace Index

/-- Reads the index from the disk; without a readable index page it is empty. -/
def build (root file : Text) (d : Disk) : Index :=
  if d.isDirectory root then
    let path := Path.join root file
    match d.read path with
    | .ok bytes =>
      let terms := parseIndex root (decodeLossy bytes)
      ⟨root, terms, .loaded terms.length⟩
    | .error fault => ⟨root, [], .unreadable path fault⟩
  else ⟨root, [], .missing root⟩

/-- The terms in ascending order. -/
def names (i : Index) : List Text := i.terms.map (·.1)

/-- The path of the page of a term, where `std::` may stand in front. -/
def lookup (i : Index) (term : Text) : Option Text := i.terms.find? (Target.withoutStd term)

/-- The URL of the documentation, which ends in a slash. -/
def baseHref (i : Index) : Text :=
  let url := "file://".toList ++ i.root
  if i.root.getLast? = some '/' then url else url ++ ['/']

/-- The page of a term, ready for display. -/
def page (i : Index) (term : Text) (d : Disk) : Except Error (Option Text) :=
  match i.lookup term with
  | none => .ok none
  | some path =>
    match d.page path with
    | .ok page => .ok (some (displayPage page i.baseHref))
    | .error e => .error e

end Index

end DocViewer.Stl
