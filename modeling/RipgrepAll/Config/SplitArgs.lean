/-
`split_args`: the process's arguments partitioned into rga's own and rg's by a closure that keeps
state (`firstarg`), `parse_args` on rga's, and `--help`/`--version` put in front of rg's when asked
for. The partition is stable: rga's are the program name followed by the owned arguments, rg's the
others, each in the order given. `--help` and `--version` reach rg from the command line alone:
the config file and `RGA_CONFIG` cannot add them.
-/
import RipgrepAll.Config.Resolve

namespace RipgrepAll

/-! ## The partition -/

/-- `Iterator::partition` with an `FnMut` predicate: the predicate runs on the items in order,
its state threaded from one call to the next. -/
def partition {σ α : Type} (f : σ → α → Bool × σ) : σ → List α → List α × List α
  | _, [] => ([], [])
  | st, x :: xs =>
    let parts := partition f (f st x).2 xs
    if (f st x).1 then (x :: parts.1, parts.2) else (parts.1, x :: parts.2)

/-- The test `split_args` applies after the first argument: text starting with `--rga-` or `--rg-`,
or one of `--help`, `-h`, `--version`, `-V`; an argument that is not UTF-8 goes to rg. -/
def isOurs (osArg : OsString) : Bool :=
  match osArg.toStr with
  | some arg =>
    arg.startsWith "--rga-" || arg.startsWith "--rg-" || arg == "--help" || arg == "-h" ||
      arg == "--version" || arg == "-V"
  | none => false

/-- The closure of `split_args`, with `firstarg` as its state: the first argument is rga's. -/
def ourArg (firstarg : Bool) (osArg : OsString) : Bool × Bool :=
  if firstarg then (true, false) else (isOurs osArg, false)

theorem partition_ourArg_false :
    ∀ xs : List OsString, partition ourArg false xs = (xs.filter isOurs, xs.filter (!isOurs ·))
  | [] => rfl
  | x :: xs => by
    simp only [partition, ourArg, Bool.false_eq_true, ↓reduceIte, partition_ourArg_false xs]
    cases h : isOurs x <;> simp [List.filter_cons, h]

/-- The program name is rga's whatever it holds; the rest is split by `isOurs`, in order. -/
theorem partition_ourArg (a0 : OsString) (rest : List OsString) :
    partition ourArg true (a0 :: rest) = (a0 :: rest.filter isOurs, rest.filter (!isOurs ·)) := by
  simp [partition, ourArg, partition_ourArg_false]

/-! ## `split_args` -/

section SplitArgs

variable {A : Type} (deps : Deps A)

/-- The error of `split_args`: the error of `parse_args` under the context it adds. -/
def splitArgsContext : String := "Could not parse config"

/-- `split_args(is_rga_preproc)` on the argument vector `argsOs` of `std::env::args_os()`; `none` where
`clap` exits the process. -/
def splitArgs (argsOs : List OsString) (isRgaPreproc : Bool) (s : Process) :
    Option (Except (String × ConfigError) (RgaConfig A × List OsString) × Process) :=
  let parts := partition ourArg true argsOs
  (parseArgs deps parts.1 isRgaPreproc s).map fun r =>
    match r.1 with
    | .error e => (.error (splitArgsContext, e), r.2)
    | .ok res =>
      let passthroughArgs := if res.rgHelp then .ofString "--help" :: parts.2 else parts.2
      let passthroughArgs :=
        if res.rgVersion then .ofString "--version" :: passthroughArgs else passthroughArgs
      (.ok (res, passthroughArgs), r.2)

/-- Argument splitting is a stable partition: rga gets the program name and then the owned
arguments, rg the others, each in the order given; an argument is owned exactly when it is UTF-8
text with one of the prefixes or names `split_args` tests; and rg receives its arguments after
`--version` and `--help` where the configuration asks for them, nothing else added. -/
theorem splitArgs_partition (a0 : OsString) (rest : List OsString) :
    partition ourArg true (a0 :: rest) = (a0 :: rest.filter isOurs, rest.filter (!isOurs ·)) ∧
    (∀ x, isOurs x = true ↔ ∃ arg, x.toStr = some arg ∧
      (arg.startsWith "--rga-" ∨ arg.startsWith "--rg-" ∨ arg = "--help" ∨ arg = "-h" ∨
        arg = "--version" ∨ arg = "-V")) ∧
    ∀ isRgaPreproc s, splitArgs deps (a0 :: rest) isRgaPreproc s =
      (parseArgs deps (a0 :: rest.filter isOurs) isRgaPreproc s).map fun r =>
        (match r.1 with
          | .error e => .error (splitArgsContext, e)
          | .ok res => .ok (res, (if res.rgVersion then [.ofString "--version"] else []) ++
              (if res.rgHelp then [.ofString "--help"] else []) ++ rest.filter (!isOurs ·)), r.2) := by
  refine ⟨partition_ourArg a0 rest, fun x => ?_, fun isRgaPreproc s => ?_⟩
  · unfold isOurs
    cases x.toStr <;> simp [or_assoc]
  · simp only [splitArgs, partition_ourArg]
    congr 1
    funext ⟨r, s'⟩
    cases r with
    | error e => rfl
    | ok res =>
      dsimp only
      cases res.rgHelp <;> cases res.rgVersion <;> rfl

/-- What a `split_args` call that succeeds returned: `parse_args`'s configuration on rga's
arguments, and rg's arguments after `--version` and `--help` where the configuration asks for
them. -/
theorem splitArgs_eq_ok {argsOs : List OsString} {mode : Bool} {s t : Process} {R : RgaConfig A}
    {p : List OsString} (h : splitArgs deps argsOs mode s = some (.ok (R, p), t)) :
    parseArgs deps (partition ourArg true argsOs).1 mode s = some (.ok R, t) ∧
      p = (if R.rgVersion then [.ofString "--version"] else []) ++
        (if R.rgHelp then [.ofString "--help"] else []) ++ (partition ourArg true argsOs).2 := by
  obtain ⟨⟨r, t'⟩, hr, he⟩ := Option.map_eq_some'.1 h
  rcases r with e | R'
  · cases he
  · simp only [Prod.mk.injEq, Except.ok.injEq] at he
    obtain ⟨⟨rfl, rfl⟩, rfl⟩ := he
    refine ⟨hr, ?_⟩
    cases R'.rgHelp <;> cases R'.rgVersion <;> rfl

/-- rg's arguments are fixed by the command line alone: in either mode, from every state, and
whatever the config file and `RGA_CONFIG` hold, a `split_args` call that succeeds gives rg
`--version` and `--help` exactly where the command line asked for them, then the arguments rga does
not own, in order. -/
theorem splitArgs_rgArgs {argsOs : List OsString} {mode : Bool} {s t : Process} {R : RgaConfig A}
    {p : List OsString} (h : splitArgs deps argsOs mode s = some (.ok (R, p), t)) :
    ∃ D, deps.clap.parseFrom (partition ourArg true argsOs).1 = some D ∧
      p = (if D.rgVersion then [.ofString "--version"] else []) ++
        (if D.rgHelp then [.ofString "--help"] else []) ++ (partition ourArg true argsOs).2 := by
  obtain ⟨hp, rfl⟩ := splitArgs_eq_ok deps h
  obtain ⟨D, hD, -⟩ := parseArgs_eq_some deps hp
  obtain ⟨-, -, -, -, hh, hv⟩ := parseArgs_skipped deps hD hp
  exact ⟨D, hD, by rw [hh, hv]⟩

end SplitArgs

/-- `clap` reads `--rg-help` from every command line. -/
def rgHelpDeps : Deps Unit := sampleDeps { RgaConfig.default "/cache" with rgHelp := true } []

/-- `rga` on a fresh process, `clap` reading `--rg-help`: rg gets `--help`. -/
theorem splitArgs_rgArgs_help :
    ∃ D, rgHelpDeps.clap.parseFrom (partition ourArg true [.ofString "rga"]).1 = some D ∧
      [OsString.ofString "--help"] = (if D.rgVersion then [.ofString "--version"] else []) ++
        (if D.rgHelp then [.ofString "--help"] else []) ++ (partition ourArg true [.ofString "rga"]).2 :=
  splitArgs_rgArgs rgHelpDeps
    (show splitArgs rgHelpDeps [.ofString "rga"] false ⟨none, fun _ => none, none⟩ =
      some (.ok (_, _), _) from rfl)

end RipgrepAll
