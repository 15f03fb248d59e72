/-
`rga-fzf-open`, which fzf runs on the selected line with the query and the file name as its two
arguments. A name ending in `.pdf` goes to `evince --find <query> <file>`; where `evince` is not
installed, and for every other name, the file goes to the desktop's opener. Both programs get the
query and the name as arguments of their own, with no shell in between, and each error `main`
returns names the file.
-/
import RipgrepAll.Fzf.Main

namespace RipgrepAll.RgaFzfOpen

open RgaFzf (Command)

/-- The arguments of `rga-fzf-open`, as its derived `clap` parser fills them. -/
structure Args where
  query : String
  fname : String
  deriving DecidableEq, Repr

/-- `std::io::ErrorKind` as `main` tells it apart: `NotFound`, or any other kind. -/
inductive SpawnErrorKind
  | notFound
  | other
  deriving DecidableEq, Repr

/-- What `main` starts: a command, or `open::that_detached` on a path. -/
inductive Launch
  | spawn (c : Command)
  | thatDetached (path : String)
  deriving DecidableEq, Repr

/-- `Command::new("evince").arg("--find").arg(&query).arg(&fname)`. -/
def evince (query fname : String) : Command := ⟨"evince", ["--find", query, fname], []⟩

/-- `main` after `Args::parse()`: what it starts, or the context of the error it returns.
`spawnEvince` is the outcome of `spawn()` on the `evince` command, and `openOk` whether
`open::that_detached` succeeds. -/
def main (args : Args) (spawnEvince : Except SpawnErrorKind Unit) (openOk : Bool) :
    Except String Launch :=
  let opened : Except String Launch :=
    if openOk then .ok (.thatDetached args.fname) else .error ("opening '" ++ args.fname ++ "'")
  if args.fname.endsWith ".pdf" then
    match spawnEvince with
    | .ok () => .ok (.spawn (evince args.query args.fname))
    | .error .notFound => opened
    | .error .other => .error ("evince launch failed for '" ++ args.fname ++ "'")
  else opened

/-- Everything `main` can do: start `evince` on a PDF, or open the file where the name is not a
PDF's or `evince` is not installed, or fail with a context naming the file. -/
theorem main_cases (args : Args) (spawnEvince : Except SpawnErrorKind Unit) (openOk : Bool) :
    (args.fname.endsWith ".pdf" = true ∧ spawnEvince = .ok () ∧
      main args spawnEvince openOk = .ok (.spawn (evince args.query args.fname))) ∨
    ((args.fname.endsWith ".pdf" = false ∨ spawnEvince = .error .notFound) ∧
      main args spawnEvince openOk = if openOk then .ok (.thatDetached args.fname)
        else .error ("opening '" ++ args.fname ++ "'")) ∨
    (args.fname.endsWith ".pdf" = true ∧ spawnEvince = .error .other ∧
      main args spawnEvince openOk = .error ("evince launch failed for '" ++ args.fname ++ "'")) := by
  unfold main
  cases hp : args.fname.endsWith ".pdf" with
  | false => exact .inr (.inl ⟨.inl rfl, rfl⟩)
  | true =>
    rcases spawnEvince with (_ | _) | ⟨⟩
    · exact .inr (.inl ⟨.inr rfl, rfl⟩)
    · exact .inr (.inr ⟨rfl, rfl, rfl⟩)
    · exact .inl ⟨rfl, rfl, rfl⟩

end RipgrepAll.RgaFzfOpen
