import CodeSurvey.Data.SortedMap

/-!
# Trees of files

What a file system holds: files with their bytes, links with the path they lead to, and directories
with named entries. A place is found from the root down by names alone; links are not followed here.
-/

namespace CodeSurvey

inductive FileNode where
  | file (bytes : ByteArray)
  | link (target : String)
  | directory (entries : List (String × FileNode))

abbrev Place := List String

namespace FileNode

def emptyDirectory : FileNode := directory []

instance : Inhabited FileNode := ⟨emptyDirectory⟩

def find? : FileNode → Place → Option FileNode
  | node, [] => some node
  | directory entries, name :: rest =>
    match entries.lookup name with
    | some node => node.find? rest
    | none => none
  | _, _ :: _ => none

/-- Change what is at a place; `none` stands for nothing there. Places within files and links stay
empty. -/
def update (node : FileNode) (change : Option FileNode → Option FileNode) : Place → FileNode
  | [] => (change (some node)).getD node
  | [name] =>
    match node with
    | directory entries =>
      match change (entries.lookup name) with
      | some new => directory (SortedMap.insertEntry name new entries)
      | none => directory (entries.filter fun e => e.1 != name)
    | other => other
  | name :: next :: rest =>
    match node with
    | directory entries =>
      match entries.lookup name with
      | some inner =>
        directory (SortedMap.insertEntry name (inner.update change (next :: rest)) entries)
      | none => directory entries
    | other => other

def insert (node new : FileNode) (place : Place) : FileNode := node.update (fun _ => some new) place

def erase (node : FileNode) (place : Place) : FileNode := node.update (fun _ => none) place

def directoryCount : FileNode → Nat
  | file _ | link _ => 0
  | directory entries => 1 + countEntries entries
where
  countEntries : List (String × FileNode) → Nat
    | [] => 0
    | (_, node) :: rest => node.directoryCount + countEntries rest

end FileNode
end CodeSurvey
