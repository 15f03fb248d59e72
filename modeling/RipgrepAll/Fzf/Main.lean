/-
`rga-fzf`, the fzf front end: `main` finds `rga` and `rga-fzf-open` beside its own executable,
configures the fzf command (its arguments, and `FZF_DEFAULT_COMMAND`, the line fzf runs with
`$SHELL -c` for its first list of files) and reads fzf's two output lines. The extra arguments of fzf
are exactly the words of `--fzf-params`, the text `split_whitespace` reads as white space around
and between words. The default command puts the initial query between single quotes without
escaping the quotes it holds. Read as a POSIX `sh` reads it, with the shell model of `Fzf.Shell`,
the line is the command `rga` with the two fixed options and the query as one word exactly when the
query holds no single quote, for every path of `rga` that is a literal word and a command's name,
as every absolute path is. Of fzf's output, `main` reads the first line as
the query and the second as the file; the query line alone reads as an empty file name, and the
error for a missing second line is returned only for output without a newline.
-/
import RipgrepAll.Fzf.Shell
import RipgrepAll.Config.Resolve

namespace RipgrepAll.RgaFzf

open Shell

/-! ## The command -/

/-- The arguments of `rga-fzf`, as its derived `clap` parser fills them. -/
structure Args where
  initialQuery : Option String
  rgParams : Option String
  rgPreviewParams : Option String
  fzfParams : Option String
  deriving DecidableEq, Repr

/-- A `std::process::Command` as `main` configures it: the program, its arguments in order, and the
variables it adds to the child's environment. -/
structure Command where
  program : String
  args : List String
  envs : List (String × String)
  deriving DecidableEq, Repr

/-- `char::is_whitespace`: the Unicode `White_Space` property. -/
def isWhitespace (c : Char) : Bool :=
  let n := c.toNat
  (0x09 ≤ n && n ≤ 0x0D) || n == 0x20 || n == 0x85 || n == 0xA0 || n == 0x1680 ||
    (0x2000 ≤ n && n ≤ 0x200A) || n == 0x2028 || n == 0x2029 || n == 0x202F || n == 0x205F ||
    n == 0x3000

/-- `str::split_whitespace`: the pieces between white space, the empty ones left out. -/
def splitWhitespace (s : String) : List String := (s.split isWhitespace).filter (· ≠ "")

/-- `rg_prefix`: the `rga` command line fzf runs, with the extra parameters of `--rg-params`. -/
def rgPrefix (preprocExe : String) (rgParams : Option String) : String :=
  match rgParams with
  | some p => preprocExe ++ " --files-with-matches --rga-cache-max-blob-len=10M " ++ p
  | none => preprocExe ++ " --files-with-matches --rga-cache-max-blob-len=10M"

/-- `rg_preview`: the `rga` command line of the preview window; fzf replaces `\x7bq\x7d` and
`\x7b\x7d` by the query and the selected line. -/
def rgPreview (preprocExe : String) (rgPreviewParams : Option String) : String :=
  match rgPreviewParams with
  | some p => preprocExe ++ " --pretty --context 5 " ++ p ++ " \x7bq\x7d --rga-fzf-path=_\x7b\x7d"
  | none => preprocExe ++ " --pretty --context 5 \x7bq\x7d --rga-fzf-path=_\x7b\x7d"

/-- The value of `FZF_DEFAULT_COMMAND`, `format!("\x7b\x7d '\x7b\x7d'", rg_prefix, &initial_query)`. -/
def fzfDefaultCommand (rgPrefix initialQuery : String) : String :=
  rgPrefix ++ " '" ++ initialQuery ++ "'"

/-- `cmd` as `main` configures it, from the paths of `rga` and `rga-fzf-open` as text and the
process id. -/
def cmd (args : Args) (preprocExe openExe : String) (pid : Nat) : Command where
  program := "fzf"
  args := ["--preview=" ++ rgPreview preprocExe args.rgPreviewParams, "--preview-window=70%:wrap",
    "--phony", "--query", args.initialQuery.getD "", "--print-query",
    "--bind=change:reload: " ++ rgPrefix preprocExe args.rgParams ++ " \x7bq\x7d",
    "--bind=ctrl-m:execute:" ++ openExe ++ " \x7bq\x7d \x7b\x7d"] ++
    (args.fzfParams.map splitWhitespace).getD []
  envs := [("FZF_DEFAULT_COMMAND",
      fzfDefaultCommand (rgPrefix preprocExe args.rgParams) (args.initialQuery.getD "")),
    ("RGA_FZF_INSTANCE", toString pid)]

/-- `Path::with_file_name` on the path of the running executable: the bytes up to its last `/`,
then the new name. -/
def withFileName (path : OsString) (name : String) : OsString :=
  ⟨(path.bytes.reverse.dropWhile (· ≠ 47)).reverse ++ name.toUTF8.toList⟩

/-- `main` up to `cmd.spawn()`: the command, or the context of the error `?` returns.
`currentExe` is `std::env::current_exe()`. -/
def main (args : Args) (currentExe : Option OsString) (pid : Nat) : Except String Command :=
  match currentExe with
  | none => .error "Could not get executable location"
  | some exe =>
    match (withFileName exe "rga").toStr with
    | none => .error "rga executable is in non-unicode path"
    | some preprocExe =>
      match (withFileName exe "rga-fzf-open").toStr with
      | none => .error "rga-fzf-open executable is in non-unicode path"
      | some openExe => .ok (cmd args preprocExe openExe pid)

theorem main_eq_ok {args : Args} {currentExe : Option OsString} {pid : Nat} {c : Command} :
    main args currentExe pid = .ok c ↔ ∃ exe preprocExe openExe, currentExe = some exe ∧
      (withFileName exe "rga").toStr = some preprocExe ∧
      (withFileName exe "rga-fzf-open").toStr = some openExe ∧ c = cmd args preprocExe openExe pid := by
  unfold main
  rcases currentExe with _ | exe
  · simp
  rcases h₁ : (withFileName exe "rga").toStr with _ | e <;>
    rcases h₂ : (withFileName exe "rga-fzf-open").toStr with _ | o <;> simp [h₁, h₂]
  exact eq_comm

/-! ## The words of `--fzf-params` -/

/-- A token of `split_whitespace`: not empty, and without white space. -/
def IsWord (w : List Char) : Prop := w ≠ [] ∧ ∀ c ∈ w, isWhitespace c = false

/-- `l` is the words `ws` with white space around and between them: white space, then each word
followed by one white space character and the rest, or by the end of the text. -/
inductive Spaced : List Char → List (List Char) → Prop
  | blank {b : List Char} : (∀ x ∈ b, isWhitespace x = true) → Spaced b []
  | word {b w rest : List Char} {c : Char} {ws : List (List Char)} :
      (∀ x ∈ b, isWhitespace x = true) → IsWord w → isWhitespace c = true → Spaced rest ws →
      Spaced (b ++ w ++ c :: rest) (w :: ws)
  | last {b w : List Char} : (∀ x ∈ b, isWhitespace x = true) → IsWord w → Spaced (b ++ w) [w]

/-- The pieces of `split_whitespace` as character lists. -/
def words (l : List Char) : List (List Char) := (l.splitOnP isWhitespace).filter (· ≠ [])

theorem splitWhitespace_eq_words (s : String) : splitWhitespace s = (words s.data).map String.mk := by
  rw [splitWhitespace, String.split_of_valid, List.filter_map, words]
  congr 2
  funext w
  simp only [Function.comp_apply, ne_eq, decide_not]
  exact congrArg (! ·) (decide_eq_decide.2 ⟨congrArg String.data, congrArg String.mk⟩)

theorem splitOnP_append_cons {p : Char → Bool} {c : Char} (hc : p c = true) (ys : List Char) :
    ∀ xs : List Char, (xs ++ c :: ys).splitOnP p = xs.splitOnP p ++ ys.splitOnP p
  | [] => by rw [List.nil_append, List.splitOnP_cons, if_pos hc, List.splitOnP_nil]; rfl
  | x :: xs => by
    rw [List.cons_append, List.splitOnP_cons, List.splitOnP_cons, splitOnP_append_cons hc ys xs]
    split
    · rfl
    · obtain ⟨a, as, h⟩ := List.exists_cons_of_ne_nil (List.splitOnP_ne_nil p xs)
      rw [h]
      rfl

/-- A white space character ends a word. -/
theorem words_append_cons {c : Char} (hc : isWhitespace c = true) (xs ys : List Char) :
    words (xs ++ c :: ys) = words xs ++ words ys := by
  rw [words, splitOnP_append_cons hc, List.filter_append]
  rfl

theorem words_blank : ∀ {b : List Char}, (∀ x ∈ b, isWhitespace x = true) → words b = []
  | [], _ => rfl
  | c :: b, h => by
    rw [← List.nil_append (c :: b), words_append_cons (h c (List.mem_cons_self c b)),
      words_blank fun x hx => h x (List.mem_cons_of_mem c hx)]
    rfl

theorem words_blank_append {b : List Char} (hb : ∀ x ∈ b, isWhitespace x = true) (l : List Char) :
    words (b ++ l) = words l := by
  induction b with
  | nil => rfl
  | cons c b ih =>
    rw [List.cons_append, ← List.nil_append (c :: _),
      words_append_cons (hb c (List.mem_cons_self c b)),
      ih fun x hx => hb x (List.mem_cons_of_mem c hx)]
    rfl

theorem words_word {w : List Char} (hw : IsWord w) : words w = [w] := by
  rw [words, List.splitOnP_eq_single _ _ fun c hc => by simp [hw.2 c hc]]
  simp [hw.1]

/-- `split_whitespace` gives back the words of every spaced text. -/
theorem Spaced.words_eq {l : List Char} {ws : List (List Char)} (h : Spaced l ws) : words l = ws := by
  induction h with
  | blank hb => exact words_blank hb
  | word hb hw hc _ ih => rw [words_append_cons hc, words_blank_append hb, words_word hw, ih]; rfl
  | last hb hw => rw [words_blank_append hb, words_word hw]

theorem Spaced.cons_blank {c : Char} (hc : isWhitespace c = true) {l : List Char}
    {ws : List (List Char)} : Spaced l ws → Spaced (c :: l) ws
  | .blank hb => .blank (List.forall_mem_cons.2 ⟨hc, hb⟩)
  | .word hb hw hc' h => Spaced.word (List.forall_mem_cons.2 ⟨hc, hb⟩) hw hc' h
  | .last hb hw => Spaced.last (List.forall_mem_cons.2 ⟨hc, hb⟩) hw

theorem isWord_singleton {c : Char} (hc : isWhitespace c = false) : IsWord [c] :=
  ⟨List.cons_ne_nil c [], by simpa using hc⟩

theorem IsWord.cons {c : Char} (hc : isWhitespace c = false) {w : List Char} (hw : IsWord w) :
    IsWord (c :: w) :=
  ⟨List.cons_ne_nil c w, List.forall_mem_cons.2 ⟨hc, hw.2⟩⟩

/-- A character that is not white space starts the first word, or is a word of its own before
white space. -/
theorem Spaced.cons_word {c : Char} (hc : isWhitespace c = false) {l : List Char}
    {ws : List (List Char)} : Spaced l ws → ∃ ws', Spaced (c :: l) ws'
  | .blank (b := []) _ => ⟨_, Spaced.last (b := []) nofun (isWord_singleton hc)⟩
  | .blank (b := c' :: b) hb => ⟨_, Spaced.word (b := []) (w := [c]) nofun (isWord_singleton hc)
      (hb c' (List.mem_cons_self c' b)) (.blank fun x hx => hb x (List.mem_cons_of_mem c' hx))⟩
  | .word (b := []) _ hw hc' h => ⟨_, Spaced.word (b := []) nofun (hw.cons hc) hc' h⟩
  | .word (b := c' :: b) hb hw hc' h => ⟨_, Spaced.word (b := []) (w := [c]) nofun
      (isWord_singleton hc) (hb c' (List.mem_cons_self c' b))
      (by simpa using Spaced.word (fun x hx => hb x (List.mem_cons_of_mem c' hx)) hw hc' h)⟩
  | .last (b := []) _ hw => ⟨_, Spaced.last (b := []) nofun (hw.cons hc)⟩
  | .last (b := c' :: b) hb hw => ⟨_, Spaced.word (b := []) (w := [c]) nofun
      (isWord_singleton hc) (hb c' (List.mem_cons_self c' b))
      (Spaced.last (fun x hx => hb x (List.mem_cons_of_mem c' hx)) hw)⟩

/-- Every text is spaced words. -/
theorem spaced_exists : ∀ l : List Char, ∃ ws, Spaced l ws
  | [] => ⟨[], .blank nofun⟩
  | c :: l => by
    obtain ⟨ws, h⟩ := spaced_exists l
    cases hc : isWhitespace c
    · exact h.cons_word hc
    · exact ⟨ws, h.cons_blank hc⟩

/-- `split_whitespace` reads a text as the words `ws` exactly when it is those words with white
space around and between them. -/
theorem splitWhitespace_eq_iff {s : String} {ws : List String} :
    splitWhitespace s = ws ↔ Spaced s.data (ws.map String.data) := by
  rw [splitWhitespace_eq_words]
  constructor
  · rintro rfl
    obtain ⟨ws', h⟩ := spaced_exists s.data
    rw [List.map_map, h.words_eq, show String.data ∘ String.mk = id from rfl, List.map_id]
    exact h
  · intro h
    rw [h.words_eq, List.map_map, show String.mk ∘ String.data = id from rfl, List.map_id]

/-- After its eight fixed arguments, fzf gets the words of `--fzf-params`, none where it is absent. -/
theorem cmd_args_drop (args : Args) (preprocExe openExe : String) (pid : Nat) :
    (cmd args preprocExe openExe pid).args.drop 8 = splitWhitespace (args.fzfParams.getD "") := by
  unfold cmd
  cases args.fzfParams with
  | none => rw [Option.getD_none, splitWhitespace_eq_words]; rfl
  | some p => rfl

/-- The extra arguments of fzf are the words of `--fzf-params`: after its eight fixed arguments fzf
gets `ws` exactly when the parameters are the words `ws` with white space around and between them,
for every `ws`; without `--fzf-params` it gets nothing more. -/
theorem cmd_fzfParams_words (args : Args) (preprocExe openExe : String) (pid : Nat) (ws : List String) :
    (cmd args preprocExe openExe pid).args.drop 8 = ws ↔
      Spaced (args.fzfParams.getD "").data (ws.map String.data) := by
  rw [cmd_args_drop]
  exact splitWhitespace_eq_iff

/-! ## The default command in the shell -/

/-- The query `don't` leaves a quote open, the query `a' 'b` is run as two words, the query
`'; touch x; '` ends the command at `;`, and a path of `rga` with a blank is run as two words. -/
theorem cmd_defaultCommand_misquoted :
    ((cmd ⟨some "don't", none, none, none⟩ "/usr/bin/rga" "/usr/bin/rga-fzf-open" 1).envs.lookup
      "FZF_DEFAULT_COMMAND").map shellWords = some (.error .unterminatedQuote) ∧
    ((cmd ⟨some "a' 'b", none, none, none⟩ "/usr/bin/rga" "/usr/bin/rga-fzf-open" 1).envs.lookup
      "FZF_DEFAULT_COMMAND").map shellWords = some (.ok ["/usr/bin/rga", "--files-with-matches",
        "--rga-cache-max-blob-len=10M", "a", "b"]) ∧
    ((cmd ⟨some "'; touch x; '", none, none, none⟩ "/usr/bin/rga" "/usr/bin/rga-fzf-open" 1).envs.lookup
      "FZF_DEFAULT_COMMAND").map shellWords = some (.error (.interpreted ';')) ∧
    ((cmd ⟨some "x", none, none, none⟩ "/opt/my apps/rga" "/opt/my apps/rga-fzf-open" 1).envs.lookup
      "FZF_DEFAULT_COMMAND").map shellWords = some (.ok ["/opt/my", "apps/rga",
        "--files-with-matches", "--rga-cache-max-blob-len=10M", "x"]) :=
  ⟨rfl, rfl, rfl, rfl⟩

/-! ## fzf's output -/

/-- After fzf exits, `main` splits its output at newlines (`<[u8]>::split`) and reads the first
piece as the final query and the second as the selected file, each with `std::str::from_utf8`. -/
def selection (stdout : List UInt8) : Except String (String × String) :=
  match stdout.splitOn 10 with
  | [] => .error "fzf output empty"
  | q :: rest =>
    match String.fromUTF8? ⟨q.toArray⟩ with
    | none => .error "fzf query not utf8"
    | some finalQuery =>
      match rest with
      | [] => .error "fzf output not two line"
      | f :: _ =>
        match String.fromUTF8? ⟨f.toArray⟩ with
        | none => .error "fzf ofilename not utf8"
        | some selectedFile => .ok (finalQuery, selectedFile)

/-- The split always has a first piece, so the `fzf output empty` error is never returned. -/
theorem selection_ne_empty (stdout : List UInt8) : selection stdout ≠ .error "fzf output empty" := by
  obtain ⟨q, rest, h⟩ := List.exists_cons_of_ne_nil (List.splitOnP_ne_nil (· == 10) stdout)
  unfold selection
  simp only [List.splitOn, h]
  repeat' split
  all_goals simp

/-- With `--print-query`, fzf prints the query and the selected line, each ended by a newline;
`main` reads both back when each is UTF-8 and holds no newline. -/
theorem selection_printQuery {qb fb : List UInt8} {q f : String} (hq : 10 ∉ qb) (hf : 10 ∉ fb)
    (hq' : String.fromUTF8? ⟨qb.toArray⟩ = some q) (hf' : String.fromUTF8? ⟨fb.toArray⟩ = some f) :
    selection (qb ++ [10] ++ fb ++ [10]) = .ok (q, f) := by
  have h : (qb ++ [10] ++ fb ++ [10]).splitOn 10 = [qb, fb, []] := by
    have := List.splitOn_intercalate [qb, fb, []] (10 : UInt8) (show ∀ l ∈ [qb, fb, []], 10 ∉ l by simp [hq, hf])
      (List.cons_ne_nil _ _)
    simpa [List.intercalate] using this
  unfold selection
  rw [h]
  simp [hq', hf']

/-- A one-byte UTF-8 text: `from_utf8` decodes the byte's character. -/
theorem fromUTF8_byte {b : UInt8} {c : Char} (hd : String.utf8DecodeChar? ⟨#[b]⟩ 0 = some c)
    (hs : c.utf8Size = 1) : String.fromUTF8? ⟨#[b]⟩ = some (String.singleton c) := by
  have h₀ : 0 < (⟨#[b]⟩ : ByteArray).size := Nat.one_pos
  have h₁ : ¬ 1 < (⟨#[b]⟩ : ByteArray).size := Nat.lt_irrefl 1
  have hv : String.validateUTF8 ⟨#[b]⟩ = true := by
    rw [String.validateUTF8, String.validateUTF8.loop, if_pos h₀, hd]
    show (String.validateUTF8.loop _ (0 + c.utf8Size)).isSome = true
    rw [hs, String.validateUTF8.loop, if_neg h₁]
    rfl
  rw [String.fromUTF8?, dif_pos hv, String.fromUTF8, String.fromUTF8.loop, if_pos h₀, hd]
  show some (String.fromUTF8.loop _ (0 + c.utf8Size) _) = _
  rw [hs, String.fromUTF8.loop, if_neg h₁]
  rfl

/-- fzf's output for the query `q` and the file `f`. -/
theorem selection_printQuery_ascii : selection ([113] ++ [10] ++ [102] ++ [10]) = .ok ("q", "f") :=
  selection_printQuery (by decide) (by decide) (fromUTF8_byte rfl rfl) (fromUTF8_byte rfl rfl)

/-- An output with a newline splits into at least two pieces. -/
theorem splitOn_newline {l : List UInt8} (h : 10 ∈ l) : ∃ a b rest, l.splitOn 10 = a :: b :: rest := by
  induction l with
  | nil => cases h
  | cons x l ih =>
    simp only [List.splitOn, List.splitOnP_cons] at ih ⊢
    split
    · obtain ⟨b, rest, hb⟩ := List.exists_cons_of_ne_nil (List.splitOnP_ne_nil (· == 10) l)
      exact ⟨[], b, rest, by rw [hb]⟩
    · rename_i hx
      obtain ⟨a, b, rest, hl⟩ := ih ((List.mem_cons.1 h).resolve_left fun e => hx (by simp [e]))
      exact ⟨x :: a, b, rest, by rw [hl]; rfl⟩

/-- An empty piece decodes as the empty text. -/
theorem fromUTF8_nil : String.fromUTF8? ⟨([] : List UInt8).toArray⟩ = some "" := by
  have h₀ : ¬ 0 < (⟨#[]⟩ : ByteArray).size := Nat.lt_irrefl 0
  have hv : String.validateUTF8 ⟨#[]⟩ = true := by
    rw [String.validateUTF8, String.validateUTF8.loop, if_neg h₀]
    rfl
  rw [String.fromUTF8?, dif_pos hv, String.fromUTF8, String.fromUTF8.loop, if_neg h₀]

/-- fzf's output read back, over every output. With `--print-query` and no selection (fzf left
with Esc, or no match) fzf prints the query line alone: `main` reads it as the query and an empty
file name, not as an error. `fzf output not two line` is returned exactly for UTF-8 output without
a newline, which fzf, ending each line it prints, never writes. -/
theorem selection_queryOnly :
    (∀ {qb : List UInt8} {q : String}, 10 ∉ qb → String.fromUTF8? ⟨qb.toArray⟩ = some q →
      selection (qb ++ [10]) = .ok (q, "")) ∧
    ∀ stdout : List UInt8, selection stdout = .error "fzf output not two line" ↔
      10 ∉ stdout ∧ (String.fromUTF8? ⟨stdout.toArray⟩).isSome := by
  refine ⟨fun {qb q} hq hq' => ?_, fun stdout => ?_⟩
  · have h : (qb ++ [10]).splitOn 10 = [qb, []] := by
      simpa [List.intercalate] using
        List.splitOn_intercalate [qb, []] (10 : UInt8) (by simp [hq]) (List.cons_ne_nil _ _)
    unfold selection
    rw [h]
    simp only [hq', fromUTF8_nil]
  · by_cases h : 10 ∈ stdout
    · obtain ⟨a, b, rest, hs⟩ := splitOn_newline h
      simp only [h, not_true_eq_false, false_and, iff_false]
      unfold selection
      rw [hs]
      dsimp only
      split <;> [skip; split] <;> simp
    · have hs : stdout.splitOn 10 = [stdout] :=
        List.splitOnP_eq_single _ _ fun x hx e => h (by simpa using (beq_iff_eq.1 e) ▸ hx)
      unfold selection
      rw [hs]
      dsimp only
      split <;> simp_all

/-- fzf left with Esc on the query `q`. -/
theorem selection_queryOnly_ascii : selection ([113] ++ [10]) = .ok ("q", "") :=
  selection_queryOnly.1 (by decide) (fromUTF8_byte rfl rfl)

end RipgrepAll.RgaFzf
