import Patchbay.Text.Pieces
/-!
# Paths

A path is a text of parts between slashes. Empty parts and single dots say nothing, but the text keeps
them until a part is taken off its end.
-/

namespace Patchbay.Files.Path

/-- Whether a path starts at the root. -/
def isAbsolute (p : String) : Bool := p.toList.head? = some '/'

/-- Whether a path can only be that of a directory: it ends with a slash or a single dot. -/
def namesDirectory (p : String) : Bool :=
  match p.toList.reverse with
  | '/' :: _ | ['.'] | '.' :: '/' :: _ => true
  | _ => false

/-- Text between slashes, in reverse, without the slashes and single dots at its end. -/
def trimEnd : List Char → List Char
  | ['/'] => ['/']
  | '/' :: rest => trimEnd rest
  | '.' :: '/' :: rest => trimEnd ('/' :: rest)
  | cs => cs

/-- A path in reverse, without what says nothing at its end. -/
def reversed (p : String) : List Char := trimEnd p.toList.reverse

/-- The last part of a path, unless there is none or it only points elsewhere. -/
def name? (p : String) : Option String :=
  let part := String.ofList ((reversed p).takeWhile (· ≠ '/')).reverse
  if part = "" || part = "." || part = ".." then none else some part

/-- The path without its last part. -/
def parent? (p : String) : Option String :=
  match reversed p with
  | [] | ['/'] => none
  | cs => some (String.ofList (trimEnd (cs.dropWhile (· ≠ '/'))).reverse)

/-- The path of something that is given from `base` on. -/
def join (base rest : String) : String :=
  if isAbsolute rest || base = "" then rest
  else if base.toList.getLast? = some '/' then base ++ rest
  else base ++ "/" ++ rest

/-- The path with another extension: what stands behind the last dot of its name, unless the name begins
with it. A name of two dots and an extension is left with two dots, which name no file, and so takes no
other extension, unless something that says nothing follows it. -/
def withExtension (p extension : String) : String :=
  match name? p with
  | none => p
  | some _ =>
    let cs := reversed p
    let name := cs.takeWhile (· ≠ '/')
    let above := cs.dropWhile (· ≠ '/')
    let stem := match name.dropWhile (· ≠ '.') with
      | '.' :: c :: rest => c :: rest
      | _ => name
    if stem = ['.'] && cs.length = p.length then String.ofList (['.', '.'] ++ above).reverse
    else String.ofList (stem ++ above).reverse ++ "." ++ extension

/-- The parts of a path that say something. -/
def parts (p : String) : List String :=
  ((Text.pieces '/' p.toList).map String.ofList).filter fun s => s ≠ "" && s ≠ "."

end Patchbay.Files.Path
