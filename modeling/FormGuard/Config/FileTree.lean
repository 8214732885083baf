import FormGuard.Text.Pieces

/-! Paths, and the files that they lead to. A path that begins with a slash counts from the root; `..` goes up one
folder, which has to exist. -/
namespace FormGuard
open FormGuard.Text

namespace Path

def isAbsolute (cs : List Char) : Bool := cs.head? == some '/'

def join (folder path : List Char) : List Char :=
  if isAbsolute path then path
  else if folder.isEmpty || folder.getLast? == some '/' then folder ++ path
  else folder ++ '/' :: path

def settle : (way : List (List Char)) → List (List Char) → List (List Char)
  | way,[] => way.reverse
  | way,name :: names =>
    if name = [] ∨ name = ['.'] then settle way names
    else if name = ['.','.'] then settle way.tail names
    else settle (name :: way) names

def normalize (cs : List Char) : List Char :=
  let names := '/' :: Text.join ['/'] (settle [] (splitOn '/' cs))
  match cs with
  | '/' :: '/' :: '/' :: _ => names
  | '/' :: '/' :: _ => '/' :: names
  | _ => names

def folder (cs : List Char) : List Char :=
  let upTo := (cs.reverse.dropWhile (· != '/')).reverse
  if upTo.all (· == '/') then upTo else (upTo.reverse.dropWhile (· == '/')).reverse

end Path

structure FileTree (α : Type) where
  files : List (List (List Char) × α)

namespace FileTree

variable {α : Type}

def isFolder (t : FileTree α) (names : List (List Char)) : Bool :=
  t.files.any fun f => names.isPrefixOf f.1 && decide (names.length < f.1.length)

def follow (t : FileTree α) : (at_ : List (List Char)) → List (List Char) → Option (List (List Char))
  | at_,[] => some at_
  | at_,name :: names =>
    if t.isFolder at_ then
      if name = [] ∨ name = ['.'] then follow t at_ names
      else if name = ['.','.'] then follow t at_.dropLast names
      else follow t (at_ ++ [name]) names
    else none

def open? (t : FileTree α) (path : List Char) : Option α :=
  if Path.isAbsolute path then (t.follow [] (splitOn '/' path)).bind fun names => t.files.lookup names else none

def put (t : FileTree α) (path : List Char) (a : α) : FileTree α :=
  ⟨t.files ++ [(Path.settle [] (splitOn '/' path),a)]⟩

end FileTree
end FormGuard
