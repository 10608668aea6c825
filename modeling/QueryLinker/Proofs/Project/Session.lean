import QueryLinker.Project.Session
import QueryLinker.Proofs.Files.Written
import QueryLinker.Proofs.Json.Limits

/-!
This module contains what each kind of work does to a session, and what it comes to. A JSON value is
read again from the file that it is written to: nothing of it is lost on the way, neither a letter
nor the order of items and members.
-/

namespace QueryLinker

variable {α β : Type} {s : Session}

namespace Work

theorem run_bind (work : Work α) (next : α → Work β) (s : Session) :
    (work >>= next).run s =
      match work.run s with
      | (.ok a, later) => (next a).run later
      | (.error e, later) => (.error e, later) := by
  have hbind : (work >>= next).run s =
      ExceptT.bindCont next (work.run s).1 (work.run s).2 := rfl
  rw [hbind]
  rcases work.run s with ⟨e | a, later⟩ <;> rfl

theorem run_bind_ok {work : Work α} {next : α → Work β} {a : α} {later : Session}
    (h : work.run s = (.ok a, later)) : (work >>= next).run s = (next a).run later := by
  rw [run_bind, h]

theorem run_bind_error {work : Work α} {next : α → Work β} {e : RunFailure} {later : Session}
    (h : work.run s = (.error e, later)) : (work >>= next).run s = (.error e, later) := by
  rw [run_bind, h]

theorem run_bind_eq_ok {work : Work α} {next : α → Work β} {b : β} {later : Session} :
    (work >>= next).run s = (.ok b, later) ↔
      ∃ a between, work.run s = (.ok a, between) ∧ (next a).run between = (.ok b, later) := by
  rw [run_bind]
  rcases work.run s with ⟨e | a, between⟩
  . constructor
    . nofun
    . rintro ⟨_, _, heq, _⟩
      cases heq
  . constructor
    . intro h
      exact ⟨a, between, rfl, h⟩
    . rintro ⟨_, _, heq, h⟩
      cases heq
      exact h

theorem run_get (next : Session → Work β) (s : Session) :
    ((get : Work Session) >>= next).run s = (next s).run s :=
  rfl

theorem run_pure (a : α) (s : Session) : (pure a : Work α).run s = (.ok a, s) :=
  rfl

theorem run_pure_eq_ok {a b : α} {later : Session} :
    (pure a : Work α).run s = (.ok b, later) ↔ a = b ∧ s = later := by
  rw [run_pure, Prod.mk.injEq, Except.ok.injEq]

theorem run_lift (x : Except RunFailure α) (s : Session) :
    (liftM x : Work α).run s = (x, s) := by
  cases x <;> rfl

theorem run_bind_lift (x : Except RunFailure α) (next : α → Work β) (s : Session) :
    ((liftM x : Work α) >>= next).run s =
      match x with
      | .ok a => (next a).run s
      | .error e => (.error e, s) := by
  rw [run_bind, run_lift]
  cases x <;> rfl

theorem run_lift_eq_ok {x : Except RunFailure α} {a : α} {later : Session} :
    (liftM x : Work α).run s = (.ok a, later) ↔ x = .ok a ∧ s = later := by
  rw [run_lift, Prod.mk.injEq]

theorem run_tryCatch (work : Work α) (handle : RunFailure → Work α) (s : Session) :
    (tryCatch work handle).run s =
      match work.run s with
      | (.ok a, later) => (.ok a, later)
      | (.error e, later) => (handle e).run later := by
  change ExceptT.tryCatch work handle s = _
  simp only [ExceptT.tryCatch, ExceptT.run, ExceptT.mk, bind, StateT.bind]
  rcases work s with ⟨e | a, later⟩ <;> rfl

def IsQuiet (work : Work α) : Prop :=
  ∀ s, ∃ result, work.run s = (result, s)

theorem isQuiet_pure (a : α) : IsQuiet (pure a) :=
  fun s => ⟨.ok a, run_pure a s⟩

theorem IsQuiet.bind {work : Work α} {next : α → Work β} (h : IsQuiet work)
    (hnext : ∀ a, IsQuiet (next a)) : IsQuiet (work >>= next) := by
  intro s
  rcases h s with ⟨e | a, hrun⟩
  . exact ⟨_, run_bind_error hrun⟩
  . rw [run_bind_ok hrun]
    exact hnext a s

def AsksNobody (work : Work α) : Prop :=
  ∀ s, (work.run s).2.requests = s.requests

theorem IsQuiet.asksNobody {work : Work α} (h : IsQuiet work) : AsksNobody work := by
  intro s
  rcases h s with ⟨result, hrun⟩
  rw [hrun]

theorem asksNobody_pure (a : α) : AsksNobody (pure a) :=
  (isQuiet_pure a).asksNobody

theorem AsksNobody.bind {work : Work α} {next : α → Work β} (h : AsksNobody work)
    (hnext : ∀ a, AsksNobody (next a)) : AsksNobody (work >>= next) := by
  intro s
  rw [run_bind, ← h s]
  rcases work.run s with ⟨e | a, later⟩
  . rfl
  . exact hnext a later

end Work

namespace Session

variable {cwd path : String} {nesting width : Nat} {done : Unit} {later : Session}

theorem run_isThere (cwd path : String) (s : Session) :
    (isThere cwd path).run s = ((s.files.isThere cwd path).mapError .file, s) := by
  unfold isThere
  rw [Work.run_get]
  cases s.files.isThere cwd path <;> rfl

theorem run_readText (cwd path : String) (s : Session) :
    (readText cwd path).run s = ((s.files.readText cwd path).mapError .ofRead, s) := by
  unfold readText
  rw [Work.run_get]
  cases s.files.readText cwd path <;> rfl

theorem run_readJson {content : ByteArray} {text : String} {value : Json}
    (hread : s.files.read cwd path = .ok content) (htext : textOfBytes content = .ok text)
    (hvalue : Json.read text (nesting - 1) = .ok value) :
    (readJson nesting cwd path).run s = (.ok value, s) := by
  have hall : s.files.readText cwd path = .ok text := by
    unfold FileTree.readText
    rw [hread]
    dsimp only
    rw [htext]
    rfl
  have hrun := run_readText cwd path s
  rw [hall] at hrun
  unfold readJson
  rw [Work.run_bind_ok hrun, hvalue]
  rfl

theorem isQuiet_readText (cwd path : String) : Work.IsQuiet (readText cwd path) :=
  fun s => ⟨_, run_readText cwd path s⟩

theorem isQuiet_readJson (nesting : Nat) (cwd path : String) :
    Work.IsQuiet (readJson nesting cwd path) := by
  refine (isQuiet_readText cwd path).bind fun text s => ?_
  cases Json.read text (nesting - 1) <;> exact ⟨_, rfl⟩

theorem run_change (result : Except FileFailure FileTree) (s : Session) :
    (change result).run s =
      match result with
      | .ok files => (.ok (), { s with files })
      | .error failure => (.error (.file failure), s) := by
  cases result <;> rfl

theorem run_change_eq_ok {result : Except FileFailure FileTree} :
    (change result).run s = (.ok done, later) ↔
      ∃ files, result = .ok files ∧ { s with files } = later := by
  rw [run_change]
  cases result with
  | error failure => exact ⟨nofun, nofun⟩
  | ok files =>
    dsimp only
    rw [Prod.mk.injEq]
    simp

theorem asksNobody_change (result : Except FileFailure FileTree) :
    Work.AsksNobody (change result) := by
  intro s
  rw [run_change]
  cases result <;> rfl

theorem run_makeDirectories (cwd path : String) (s : Session) :
    (makeDirectories cwd path).run s = (change (s.files.makeDirectories cwd path)).run s := by
  unfold makeDirectories
  rw [Work.run_get]

theorem run_writeJson (nesting : Nat) (cwd path : String) (value : Json) (s : Session) :
    (writeJson nesting cwd path value).run s =
      match s.files.write cwd path (String.ofList (value.written nesting 0 []).text).toUTF8 with
      | .error failure => (.error (.file failure), s)
      | .ok files =>
        (match (value.written nesting 0 []).flaw? with
          | some flaw => .error (.notWritten flaw)
          | none => .ok (),
          { s with files }) := by
  unfold writeJson
  dsimp only
  rw [Work.run_get, Work.run_bind, run_change]
  cases s.files.write cwd path (String.ofList (value.written nesting 0 []).text).toUTF8 with
  | error failure => rfl
  | ok files => cases (value.written nesting 0 []).flaw? <;> rfl

theorem run_makeDirectories_eq_ok : (makeDirectories cwd path).run s = (.ok done, later) ↔
    ∃ files, s.files.makeDirectories cwd path = .ok files ∧ { s with files } = later := by
  rw [run_makeDirectories, run_change_eq_ok]

theorem run_writeJson_of_text (cwd path : String) (s : Session) {value : Json} {text : String}
    (h : value.text nesting = .ok text) :
    (writeJson nesting cwd path value).run s =
      (change (s.files.write cwd path text.toUTF8)).run s := by
  rw [run_writeJson, Json.written_of_text h, run_change, Json.Written.ofText, String.ofList_toList]
  cases s.files.write cwd path text.toUTF8 <;> rfl

theorem run_writeJson_eq_ok {value : Json} :
    (writeJson nesting cwd path value).run s = (.ok done, later) ↔
      ∃ text, value.text nesting = .ok text ∧
        ∃ files, s.files.write cwd path text.toUTF8 = .ok files ∧ { s with files } = later := by
  cases htext : value.text nesting with
  | ok text =>
    rw [run_writeJson_of_text cwd path s htext, run_change_eq_ok]
    simp
  | error flaw =>
    rw [run_writeJson, Json.text_eq_error_iff.mp htext]
    cases s.files.write cwd path _ <;> exact ⟨nofun, nofun⟩

theorem asksNobody_writeJson (nesting : Nat) (cwd path : String) (value : Json) :
    Work.AsksNobody (writeJson nesting cwd path value) := by
  intro s
  rw [run_writeJson]
  cases s.files.write cwd path (String.ofList (value.written nesting 0 []).text).toUTF8 <;> rfl

theorem run_print (width : Nat) (blocks : List Console.Block) (s : Session) :
    (print width blocks).run s =
      (match (Console.print blocks width).2 with
        | some flaw => .error (.markup flaw)
        | none => .ok (),
        { s with lines := s.lines ++ (Console.print blocks width).1 }) := by
  unfold print
  rcases Console.print blocks width with ⟨lines, _ | flaw⟩ <;> rfl

theorem run_print_eq_ok {blocks : List Console.Block} :
    (print width blocks).run s = (.ok done, later) ↔
      (Console.print blocks width).2 = none ∧
        { s with lines := s.lines ++ (Console.print blocks width).1 } = later := by
  rw [run_print]
  cases (Console.print blocks width).2 with
  | some flaw => exact ⟨nofun, nofun⟩
  | none =>
    dsimp only
    rw [Prod.mk.injEq]
    simp

theorem asksNobody_print (width : Nat) (blocks : List Console.Block) :
    Work.AsksNobody (print width blocks) := by
  intro s
  rw [run_print]

theorem run_post (r : Http.Request) (s : Session) :
    (post r).run s =
      match s.outcomes with
      | [] => (.error .noOutcome, { s with requests := s.requests ++ [r] })
      | outcome :: outcomes =>
        (.ok (outcome.ofServer r.url), { s with outcomes, requests := s.requests ++ [r] }) := by
  rcases s with ⟨files, outcomes, requests, lines⟩
  cases outcomes <;> rfl

theorem run_post_eq_ok {r : Http.Request} {outcome : Http.Outcome} :
    (post r).run s = (.ok outcome, later) ↔ ∃ first outcomes, s.outcomes = first :: outcomes ∧
      first.ofServer r.url = outcome ∧
        { s with outcomes, requests := s.requests ++ [r] } = later := by
  rw [run_post]
  cases s.outcomes with
  | nil => exact ⟨nofun, nofun⟩
  | cons first outcomes =>
    dsimp only
    rw [Prod.mk.injEq, Except.ok.injEq]
    constructor
    . intro h
      exact ⟨first, outcomes, rfl, h⟩
    . rintro ⟨_, _, heq, h⟩
      cases heq
      exact h

end Session

theorem FileTree.write_eq_error {t : FileTree} {cwd path : String} {content : ByteArray}
    {failure : FileFailure} (h : t.write cwd path content = .error failure) (other : ByteArray) :
    t.write cwd path other = .error failure := by
  unfold write at h ⊢
  split at h
  . exact h
  . dsimp only at h ⊢
    split at h
    . exact h
    . exact h
    . split at h
      . split at h
        next hdirectory => rw [if_pos hdirectory]; exact h
        next hfile =>
          rw [if_neg hfile]
          split at h
          next hlong => rw [if_pos hlong]; exact h
          next => cases h
      . exact h

namespace Json

variable {v : Json}

theorem readable_iff_exists_read : Readable v ↔ ∃ text room, Json.read text room = .ok v := by
  constructor
  . intro h
    exact ⟨v.pretty, v.levels, read_pretty h (Nat.le_refl _)⟩
  . rintro ⟨text, room, h⟩
    exact (readableIn_of_read h).readable

theorem isAscii_pretty (h : Readable v) : v.pretty.toList.all Text.isAscii := by
  rw [pretty, String.toList_ofList, List.all_eq_true]
  intro c hc
  exact ((readsAs_indented h 0).plain c hc).1

end Json

namespace Session

section

variable {v : Json} (h : v.Readable) (hread : s.files.read cwd path = .ok v.pretty.toUTF8)

include h hread

theorem run_readText_pretty : (readText cwd path).run s = (.ok v.pretty, s) := by
  rw [run_readText, FileTree.readText, hread]
  dsimp only
  rw [Json.textOfBytes_pretty h]
  rfl

theorem run_readJson_pretty (hroom : v.levels ≤ nesting - 1) :
    (readJson nesting cwd path).run s = (.ok v, s) :=
  run_readJson hread (Json.textOfBytes_pretty h) (Json.read_pretty h hroom)

theorem run_readJson_pretty_of_deep (hroom : nesting - 1 < v.levels) :
    ∃ e : Json.ReadError, e.IsDeep ∧
      (readJson nesting cwd path).run s = (.error (.notJson e v.pretty), s) := by
  rcases Json.read_pretty_of_deep h hroom with ⟨e, hfails, hdeep⟩
  refine ⟨e, hdeep, ?_⟩
  unfold readJson
  rw [Work.run_bind_ok (run_readText_pretty h hread), hfails]
  rfl

end

/--
A value is written to its end iff its integers are short enough and there is room for the calls that
this takes. The text is plain ASCII then, and only the place decides whether a file can be written.
The file holds the text, and the value is read from it iff there is room for its nesting.
-/
theorem readJson_writeJson {v : Json} (h : v.WellFormed) (nesting : Nat) (cwd path : String)
    (s : Session) :
    ((∃ text, v.text nesting = .ok text) ↔ v.ShortIntegers ∧ v.calls ≤ nesting) ∧
      (∀ text, v.text nesting = .ok text → text.toList.all Text.isAscii) ∧
      ((∃ failure, ∀ w, (writeJson nesting cwd path w).run s = (.error (.file failure), s)) ∨
        ∃ files, match v.text nesting with
          | .error flaw =>
            (writeJson nesting cwd path v).run s = (.error (.notWritten flaw), { s with files })
          | .ok text =>
            (writeJson nesting cwd path v).run s = (.ok (), { s with files }) ∧
              (readText cwd path).run { s with files } = (.ok text, { s with files }) ∧
              (v.levels ≤ nesting - 1 →
                (readJson nesting cwd path).run { s with files } = (.ok v, { s with files })) ∧
              (nesting - 1 < v.levels → ∃ e : Json.ReadError, e.IsDeep ∧
                (readJson nesting cwd path).run { s with files } =
                  (.error (.notJson e text), { s with files }))) := by
  have hreadable {text : String} (htext : v.text nesting = .ok text) :
      text = v.pretty ∧ v.Readable := by
    rcases Json.text_eq_ok_iff.mp htext with ⟨heq, hshort, _⟩
    exact ⟨heq, Json.readable_iff.mpr ⟨h, hshort⟩⟩
  refine ⟨?_, ?_, ?_⟩
  . simp only [Json.text_eq_ok_iff, exists_eq_left]
  . intro text htext
    rw [(hreadable htext).1]
    exact Json.isAscii_pretty (hreadable htext).2
  . cases hwrite : s.files.write cwd path (String.ofList (v.written nesting 0 []).text).toUTF8 with
    | error failure =>
      left
      refine ⟨failure, fun w => ?_⟩
      rw [run_writeJson, FileTree.write_eq_error hwrite]
    | ok files =>
      right
      refine ⟨files, ?_⟩
      have hrun := run_writeJson nesting cwd path v s
      rw [hwrite] at hrun
      split
      next flaw hflaw =>
        rw [Json.text_eq_error_iff.mp hflaw] at hrun
        exact hrun
      next text htext =>
        rcases hreadable htext with ⟨rfl, hv⟩
        rw [Json.written_of_text htext] at hrun hwrite
        have hread : files.read cwd path = .ok v.pretty.toUTF8 := by
          rcases FileTree.exists_written hwrite with ⟨way, name, hfile⟩
          rw [hfile.read, Json.Written.ofText, String.ofList_toList]
        exact ⟨hrun, run_readText_pretty hv hread, run_readJson_pretty hv hread,
          run_readJson_pretty_of_deep hv hread⟩

namespace Sample

def value : Json :=
  .obj [("b\n", .arr [.obj [], .int (-30), .real (.ofDecimal true 15 (-1))]), ("𝒳\"", .arr [])]

theorem readable_value : value.Readable := by
  have hempty : Json.Readable (.obj []) := .obj (by simp) (by simp) (by simp)
  have hitems : Json.Readable (.arr [.obj [], .int (-30), .real (.ofDecimal true 15 (-1))]) := by
    refine .arr ?_
    simp only [List.forall_mem_cons]
    exact ⟨hempty, .int (by decide), .real (Number.Real.read_ofDecimal _ _ _), by simp⟩
  refine .obj (by decide) ?_ ?_ <;> simp only [List.forall_mem_cons]
  . exact ⟨LooseText.paired_ofString _, LooseText.paired_ofString _, by simp⟩
  . exact ⟨hitems, .arr (by simp), by simp⟩

theorem written_file (content : ByteArray) : FileTree.Written .empty "/" "v.json" content
    (.directory [("v.json", .file content)]) [] "v.json" where
  flaw := FileTree.pathFlaw?_eq_none (by decide) (by decide) (by decide)
  slash := FileTree.endsWith_slash_eq_false (by decide)
  components := by
    refine ⟨[], ?_, rfl⟩
    rw [FileTree.openedComponents_eq]
    decide
  directory := ⟨[], rfl, nofun⟩
  ne_dot := by decide
  ne_dots := by decide
  size_le := by decide
  result := rfl

end Sample

theorem readJson_writeJson_nested : Sample.value.WellFormed ∧ ∃ later : Session,
    (writeJson usualNesting "/" "v.json" Sample.value).run { files := .empty } = (.ok (), later) ∧
      (readJson usualNesting "/" "v.json").run later = (.ok Sample.value, later) := by
  have hwell := Sample.readable_value.wellFormed
  rcases readJson_writeJson hwell usualNesting "/" "v.json" { files := .empty } with
    ⟨htext, _, ⟨failure, hfails⟩ | ⟨files, hfiles⟩⟩
  . have hrun := hfails Sample.value
    rw [run_writeJson, (Sample.written_file _).write] at hrun
    cases hrun
  . rcases htext.mpr ⟨(Json.readable_iff.mp Sample.readable_value).2, by decide⟩ with ⟨text, htext⟩
    rw [htext] at hfiles
    exact ⟨hwell, _, hfiles.1, hfiles.2.2.1 (by decide)⟩

/-- An integer with one digit too many is not written, and the file is left without a text. -/
theorem writeJson_integer_too_long :
    let v : Json := .int (10 ^ Number.maxIntegerDigits)
    v.WellFormed ∧ v.text usualNesting = .error .integerTooLong ∧
      ∃ later : Session,
        (writeJson usualNesting "/" "v.json" v).run { files := .empty } =
            (.error (.notWritten .integerTooLong), later) ∧
          (readText "/" "v.json").run later = (.ok "", later) := by
  have hwritten := Json.written_of_long (Json.lt_length_toDigits_pow (by decide)) usualNesting 0 []
  have hfile := Sample.written_file "".toUTF8
  refine ⟨.int _, Json.text_eq_error_iff.mpr (by rw [hwritten]; rfl),
    { files := .directory [("v.json", .file "".toUTF8)] }, ?_, ?_⟩
  . rw [run_writeJson, hwritten, Json.Written.ofFlaw, hfile.write]
  . rw [run_readText, FileTree.readText, hfile.read]
    dsimp only
    rw [textOfBytes_toUTF8 (by decide) (by decide)]
    rfl

end Session

end QueryLinker
