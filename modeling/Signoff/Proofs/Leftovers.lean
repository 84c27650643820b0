/-
# `Signoff.Proofs.Leftovers` — what a check leaves behind

A check writes its report and then its views, and every one of these writings can fail on its own.
Nothing that was written is taken back: a check that ends with 1 leaves the outputs before the one that
could not be written, and only a problem with its inputs leaves every file as it was.  A check that
ends with a verdict has written all of its outputs (`Command.Tool.call_outputs`).

A command is a sequence of steps that put texts into files and may stop on the way.  How such a step
can end is said once (`Command.Tool.Ends`); this is kept by steps after one another and by the loop over
the views.
-/
import Signoff.Command.Tool
import Signoff.Proofs.FileTexts
import Signoff.Proofs.Running

namespace Signoff.Command.Tool

open Files (Wrote)

variable {α β : Type} {f : Files}

/-! ## Commands on files in memory -/

/-- How an action ends on files in memory, and the files after it. -/
def runOn (act : Attempt (StateM Files) α) (f : Files) : Except Failure α × Files := act.run.run f

theorem runOn_bind (act : Attempt (StateM Files) α) (k : α → Attempt (StateM Files) β) :
    runOn (act >>= k) f =
      match runOn act f with
      | (.ok a, g) => runOn (k a) g
      | (.error e, g) => (.error e, g) := by
  show (match act.run.run f with | (x, g) => ExceptT.bindCont k x g) = _
  rw [runOn]
  rcases act.run.run f with ⟨e | a, g⟩ <;> rfl

theorem runOn_readFile (what path : String) :
    runOn (readFile Files.disk what path) f =
      ((f.read path).mapError fun e => ⟨[what ++ ": " ++ path], .disk e⟩, f) := rfl

theorem runOn_within (context : String) (act : Attempt (StateM Files) α) :
    runOn (within context act) f =
      ((runOn act f).1.mapError (Failure.within context), (runOn act f).2) := rfl

/-- A step that changes the files leaves them as they are if it fails. -/
theorem runOn_change (context : String) (act : Files → Except DiskFault Files) :
    runOn (diskStep context (Files.change act)) f =
      match act f with
      | .ok g => (.ok (), g)
      | .error e => (.error ⟨[context], .disk e⟩, f) := by
  have hchange : Files.change act f =
      match act f with
      | .ok g => (.ok (), g)
      | .error e => (.error e, f) := by
    show (match act f with
      | .ok g => _
      | .error e => _ : StateM Files (Except DiskFault Unit)) f = _
    cases act f <;> rfl
  show ((Files.change act f).1.mapError _, (Files.change act f).2) = _
  rw [hchange]
  cases act f <;> rfl

theorem runOn_write (context path text : String) :
    runOn (diskStep context (Files.disk.write path text)) f =
      match f.write path text with
      | .ok g => (.ok (), g)
      | .error e => (.error ⟨[context], .disk e⟩, f) :=
  runOn_change context (·.write path text)

theorem runOn_makeDirs (context path : String) :
    runOn (diskStep context (Files.disk.makeDirs path)) f =
      match f.makeDirs path with
      | .ok g => (.ok (), g)
      | .error e => (.error ⟨[context], .disk e⟩, f) :=
  runOn_change context (·.makeDirs path)

/-! ## Writing a file -/

/-- A file is written with the directories around it, or no file changes. -/
theorem writeFile_cases (f : Files) (path text : String) :
    (∃ g, runOn (writeFile Files.disk path text) f = (.ok (), g) ∧ Wrote f [(path, text)] g) ∨
      ∃ e g, runOn (writeFile Files.disk path text) f = (.error e, g) ∧ Wrote f [] g := by
  have hwrite : ∀ g, Wrote f [] g →
      (∃ g', runOn (diskStep ("write file: " ++ path) (Files.disk.write path text)) g =
        (.ok (), g') ∧ Wrote f [(path, text)] g') ∨
      ∃ e g', runOn (diskStep ("write file: " ++ path) (Files.disk.write path text)) g =
        (.error e, g') ∧ Wrote f [] g' := by
    intro g hg
    rw [runOn_write]
    cases hput : g.write path text with
    | ok g' => exact .inl ⟨g', rfl, hg.append (Files.wrote_of_write hput)⟩
    | error e => exact .inr ⟨_, g, rfl, hg⟩
  rw [writeFile]
  cases PathText.parent? path with
  | none => exact hwrite f (Wrote.refl f)
  | some directory =>
      dsimp only
      split
      · rw [runOn_bind, runOn_makeDirs]
        cases hmake : f.makeDirs directory with
        | ok g => exact hwrite g (Files.wrote_of_makeDirs hmake)
        | error e => exact .inr ⟨_, f, rfl, Wrote.refl f⟩
      · exact hwrite f (Wrote.refl f)

theorem wrote_of_writeFile_error {g : Files} {path text : String} {e : Failure}
    (herror : runOn (writeFile Files.disk path text) f = (.error e, g)) : Wrote f [] g := by
  rcases writeFile_cases f path text with ⟨g', hok, -⟩ | ⟨e', g', herror', hw⟩
  · rw [herror] at hok
    cases hok
  · rw [herror] at herror'
    obtain ⟨-, rfl⟩ := Prod.mk.inj herror'
    exact hw

/-! ## Steps that write -/

/-- How a step that puts texts into files, one after another, can end: all of them are there, or one
could not be written after those before it. -/
inductive Ends (f : Files) (outs : List (String × String)) (a : α) : Except Failure α × Files → Prop
  | all {g : Files} : Wrote f outs g → Ends f outs a (.ok a, g)
  | cut {g g' : Files} {e : Failure} (cause : Failure) (before : List (String × String))
      (out : String × String) (rest : List (String × String)) :
      outs = before ++ out :: rest → Wrote f before g →
        runOn (writeFile Files.disk out.1 out.2) g = (.error cause, g') → Ends f outs a (.error e, g')

namespace Ends

variable {outs outs₁ outs₂ : List (String × String)} {a : α} {b : β}
  {act : Attempt (StateM Files) α} {k : α → Attempt (StateM Files) β}

theorem nil (a : α) : Ends f [] a (runOn (pure a) f) := .all (Wrote.refl f)

theorem writeFile (path text : String) :
    Ends f [(path, text)] () (runOn (writeFile Files.disk path text) f) := by
  rcases writeFile_cases f path text with ⟨g, hok, hw⟩ | ⟨e, g, herror, -⟩
  · rw [hok]
    exact .all hw
  · rw [herror]
    exact .cut e [] (path, text) [] rfl (Wrote.refl f) herror

theorem within {context : String} (hact : Ends f outs a (runOn act f)) :
    Ends f outs a (runOn (within context act) f) := by
  rw [runOn_within]
  generalize runOn act f = x at hact
  cases hact with
  | all hw => exact .all hw
  | cut cause before out rest houts hw herror => exact .cut cause before out rest houts hw herror

theorem after {g : Files} {x : Except Failure β × Files} (hw : Wrote f outs₁ g)
    (hx : Ends g outs₂ b x) : Ends f (outs₁ ++ outs₂) b x := by
  cases hx with
  | all hw' => exact .all (hw.append hw')
  | cut cause before out rest houts hw' herror =>
      refine .cut cause (outs₁ ++ before) out rest ?_ (hw.append hw') herror
      rw [houts, List.append_assoc]

theorem bind (hact : Ends f outs₁ a (runOn act f))
    (hk : ∀ g, Wrote f outs₁ g → Ends g outs₂ b (runOn (k a) g)) :
    Ends f (outs₁ ++ outs₂) b (runOn (act >>= k) f) := by
  rw [runOn_bind]
  generalize runOn act f = x at hact
  cases hact with
  | all hw => exact after hw (hk _ hw)
  | cut cause before out rest houts hw herror =>
      refine .cut cause before out (rest ++ outs₂) ?_ hw herror
      rw [houts, List.append_assoc, List.cons_append]

theorem views (r : Report) (ws : List (View × String)) (a : α) :
    Ends f (ws.map fun w => (w.2, r.render w.1)) a
      (runOn (do
        for (v, path) in ws do
          Tool.within ("write " ++ v.title ++ " view")
            (Tool.writeFile Files.disk path (r.render v))
        return a) f) := by
  induction ws generalizing f with
  | nil => exact nil a
  | cons w ws ih =>
      simp only [List.forIn_cons, bind_assoc, pure_bind]
      exact (within (writeFile w.2 (r.render w.1))).bind fun g _ => ih

end Ends

/-! ## The check -/

/-- The outputs of a check, in the order in which they are written. -/
def outputs (files : CheckFiles) (r : Report) : List (String × String) :=
  (files.report, r.serialize) :: (wantedViews files).map fun w => (w.2, r.render w.1)

theorem report_mem_outputs (files : CheckFiles) (r : Report) :
    (files.report, r.serialize) ∈ outputs files r :=
  List.mem_cons_self

theorem view_mem_outputs {files : CheckFiles} {w : View × String} (r : Report)
    (hw : w ∈ wantedViews files) : (w.2, r.render w.1) ∈ outputs files r :=
  List.mem_cons_of_mem _ (List.mem_map.mpr ⟨w, hw, rfl⟩)

/-- The run on the two inputs, as they are in the files, ends with the report. -/
def Reports (stamp : Run.Stamp) (files : CheckFiles) (f : Files) (r : Report) : Prop :=
  ∃ config evidence, f.read files.config = .ok config ∧ f.read files.evidence = .ok evidence ∧
    Run.run stamp config evidence = .ok r

variable {stamp : Run.Stamp} {files : CheckFiles} {r : Report}

/-- What is left of a check once there is a report. -/
def deliver (files : CheckFiles) (r : Report) : Attempt (StateM Files) Nat := do
  within "write result json" (writeFile Files.disk files.report r.serialize)
  for (v, path) in wantedViews files do
    within ("write " ++ v.title ++ " view") (writeFile Files.disk path (r.render v))
  return r.result.status.exitCode

theorem Ends.deliver (files : CheckFiles) (r : Report) :
    Ends f (outputs files r) r.result.status.exitCode (runOn (deliver files r) f) :=
  (Ends.within (Ends.writeFile files.report r.serialize)).bind fun _ _ =>
    Ends.views r (wantedViews files) r.result.status.exitCode

/-- A check that comes to a report delivers it. -/
theorem runOn_check_of_reports (hr : Reports stamp files f r) :
    runOn (check Files.disk stamp files) f = runOn (deliver files r) f := by
  obtain ⟨config, evidence, hconfig, hevidence, hrun⟩ := hr
  rw [check, runOn_bind, runOn_readFile, hconfig]
  show runOn (readFile _ _ _ >>= _) f = _
  rw [runOn_bind, runOn_readFile, hevidence]
  show runOn (ExceptT.mk (pure (Run.run stamp config evidence)) >>= _) f = _
  rw [hrun]
  rfl

theorem runOn_check_of_not_reports (hr : ∀ r, ¬ Reports stamp files f r) :
    ∃ e, runOn (check Files.disk stamp files) f = (.error e, f) := by
  rw [check, runOn_bind, runOn_readFile]
  cases hconfig : f.read files.config with
  | error e => exact ⟨_, rfl⟩
  | ok config =>
      show ∃ e, runOn (readFile _ _ _ >>= _) f = _
      rw [runOn_bind, runOn_readFile]
      cases hevidence : f.read files.evidence with
      | error e => exact ⟨_, rfl⟩
      | ok evidence =>
          show ∃ e, runOn (ExceptT.mk (pure (Run.run stamp config evidence)) >>= _) f = _
          cases hrun : Run.run stamp config evidence with
          | error e => exact ⟨_, rfl⟩
          | ok r => exact absurd ⟨config, evidence, hconfig, hevidence, hrun⟩ (hr r)

/-- What the caller of a check sees of its end. -/
def outcomeOf : Except Failure Nat → Outcome
  | .ok code => { code := code }
  | .error e => { code := 1, stderr := toolName ++ " error: " ++ e.message ++ "\n" }

theorem call_eq_of_check {words : List String}
    (hwords : Request.ofArgs stamp.version words = .check files) :
    (call Files.disk stamp words).run f =
      (outcomeOf (runOn (check Files.disk stamp files) f).1,
        (runOn (check Files.disk stamp files) f).2) := by
  rw [call, hwords]
  show StateT.run ((check Files.disk stamp files).run >>= _) f = _
  rw [StateT.run_bind, runOn]
  rcases (check Files.disk stamp files).run.run f with ⟨e | code, g⟩ <;> rfl

theorem exitCode_cases (s : Status) : s.exitCode = 0 ∧ s = .pass ∨ s.exitCode = 2 ∧ s = .fail := by
  cases s with
  | pass => exact .inl ⟨rfl, rfl⟩
  | fail => exact .inr ⟨rfl, rfl⟩

/-- **What a check leaves behind.**  A check that ends with 1 came to no report and changed nothing, or
one of its outputs could not be written and those before it stay; one that writes its report alone
left no file changed.  Otherwise all outputs were written: 0 is a PASS and 2 is a FAIL, and where the
outputs are different files, each holds its text. -/
theorem call_outputs {words : List String} {f' : Files} {o : Outcome}
    (hwords : Request.ofArgs stamp.version words = .check files)
    (hcall : (call Files.disk stamp words).run f = (o, f')) :
    (o.code = 1 →
      ((f' = f ∧ ∀ r, ¬ Reports stamp files f r) ∨
        ∃ r before out rest g e, Reports stamp files f r ∧
          outputs files r = before ++ out :: rest ∧ Wrote f before g ∧
          runOn (writeFile Files.disk out.1 out.2) g = (.error e, f') ∧ Wrote f before f') ∧
      (wantedViews files = [] → ∀ p, f'.text? p = f.text? p)) ∧
    (o.code ≠ 1 →
      ∃ r, Reports stamp files f r ∧
        (o.code = 0 ∧ r.result.status = .pass ∨ o.code = 2 ∧ r.result.status = .fail) ∧
        Wrote f (outputs files r) f' ∧
        (((outputs files r).map fun out => f.place out.1).Nodup →
          f'.text? (f.place files.report) = some r.serialize ∧
          ∀ w ∈ wantedViews files, f'.text? (f.place w.2) = some (r.render w.1))) := by
  rw [call_eq_of_check hwords] at hcall
  by_cases hr : ∃ r, Reports stamp files f r
  · obtain ⟨r, hr⟩ := hr
    have hends := Ends.deliver (f := f) files r
    rw [runOn_check_of_reports hr] at hcall
    generalize runOn (deliver files r) f = x at hcall hends
    cases hends with
    | all hw =>
        obtain ⟨rfl, rfl⟩ := Prod.mk.inj hcall
        have hcode := exitCode_cases r.result.status
        have hne : r.result.status.exitCode ≠ 1 := by omega
        refine ⟨fun h => absurd h hne, fun _ => ⟨r, hr, hcode, hw, fun hplaces => ?_⟩⟩
        exact ⟨hw.text?_of_mem hplaces (report_mem_outputs files r), fun w hwanted =>
          hw.text?_of_mem hplaces (view_mem_outputs r hwanted)⟩
    | @cut g g' _ cause before out rest houts hg herror =>
        obtain ⟨rfl, rfl⟩ := Prod.mk.inj hcall
        have hw : Wrote f before g' :=
          List.append_nil before ▸ hg.append (wrote_of_writeFile_error herror)
        refine ⟨fun _ => ⟨.inr ⟨r, before, out, rest, g, cause, hr, houts, hg, herror, hw⟩,
          fun hviews p => ?_⟩, fun h => absurd rfl h⟩
        -- The report is the only output, so nothing stands before the one that failed.
        have hbefore : before = [] := by
          rw [outputs, hviews, List.map_nil] at houts
          exact (List.append_eq_singleton_iff.mp houts.symm).elim (·.1) fun h => nomatch h.2
        rw [hbefore] at hw
        exact hw.text?_of_ne fun _ hout => absurd hout List.not_mem_nil
  · have hnone : ∀ r, ¬ Reports stamp files f r := fun r h => hr ⟨r, h⟩
    obtain ⟨e, he⟩ := runOn_check_of_not_reports hnone
    rw [he] at hcall
    obtain ⟨rfl, rfl⟩ := Prod.mk.inj hcall
    exact ⟨fun _ => ⟨.inl ⟨rfl, hnone⟩, fun _ _ => rfl⟩, fun h => absurd rfl h⟩

/-! ## A view below a file -/

section Blocked

/-- A check without requirements and waivers. -/
def plainConfig : String := "[checker]\nid = \"C\"\n"

def plainToml : Toml.Value := .table [("checker", .table [("id", .string "C")])]

def plainCheck : Config.Resolved where
  checker := ⟨"C", "", .existence, .exact, .usual .boolean⟩
  model := {}
  type := .boolean
  warnings := []

theorem ofText_plainConfig : Toml.Value.ofText? plainConfig = some plainToml := by cbv

theorem load_plainConfig : Config.load plainConfig = .ok plainCheck :=
  Config.load_of_tables ofText_plainConfig (by decide) (by cbv) (by decide) rfl (by cbv)

/-- The inputs of the check, and nothing else. -/
def inputs : Files where
  entries := [(["c.toml"], .file plainConfig), (["e.json"], .file "\x7b\x7d")]

def plainStamp : Run.Stamp := ⟨"1", .epoch, .epoch⟩

/-- The check asks for its report and for one view. -/
def withLog (log : String) : CheckFiles :=
  { config := "c.toml", evidence := "e.json", report := "r.json", log := some log }

def wordsWithLog (log : String) : List String :=
  ["check", "--config", "c.toml", "--evidence", "e.json", "--report-out", "r.json", "--log-out", log]

theorem wantedViews_withLog (log : String) : wantedViews (withLog log) = [(.log, log)] := rfl

theorem reports_inputs (log : String) :
    ∃ r, Reports plainStamp (withLog log) inputs r ∧ r.result.status = .pass := by
  have hconfig : inputs.read "c.toml" = .ok plainConfig := by rfl
  have hjson : inputs.read "e.json" = .ok "\x7b\x7d" := by rfl
  have hevidence : EvidenceFile.parse "\x7b\x7d" plainCheck.type = .ok ⟨.split [] [], []⟩ := by cbv
  have hrun : Run.run plainStamp plainConfig "\x7b\x7d" = .ok _ :=
    Run.run_eq_ok_iff.mpr ⟨plainCheck, _, _, _, load_plainConfig, hevidence, rfl, rfl, rfl⟩
  exact ⟨_, ⟨_, _, hconfig, hjson, hrun⟩, rfl⟩

theorem runOn_writeReport (text : String) :
    runOn (writeFile Files.disk "r.json" text) inputs =
      (.ok (), inputs.put ["r.json"] (.file text)) := by rfl

theorem runOn_writeBlocked (text view : String) :
    runOn (writeFile Files.disk "e.json/x" view) (inputs.put ["r.json"] (.file text)) =
      (.error ⟨["create directory: e.json"], .disk .alreadyExists⟩,
        inputs.put ["r.json"] (.file text)) := by rfl

theorem runOn_writeLog (text view : String) :
    runOn (writeFile Files.disk "out/c.log" view) (inputs.put ["r.json"] (.file text)) =
      (.ok (), ((inputs.put ["r.json"] (.file text)).put ["out"] .directory).put ["out", "c.log"]
        (.file view)) := by rfl

theorem deliver_logged (r : Report) :
    ∃ g, runOn (deliver (withLog "out/c.log") r) inputs = (.ok r.result.status.exitCode, g) := by
  rw [deliver, runOn_bind, runOn_within, show (withLog "out/c.log").report = "r.json" from rfl,
    runOn_writeReport]
  simp only [Except.mapError, wantedViews_withLog, List.forIn_cons, runOn_bind, runOn_within,
    runOn_writeLog]
  exact ⟨_, rfl⟩

theorem deliver_blocked (r : Report) :
    runOn (deliver (withLog "e.json/x") r) inputs =
      (.error ⟨["write Log view", "create directory: e.json"], .disk .alreadyExists⟩,
        inputs.put ["r.json"] (.file r.serialize)) := by
  rw [deliver, runOn_bind, runOn_within, show (withLog "e.json/x").report = "r.json" from rfl,
    runOn_writeReport]
  simp only [Except.mapError, wantedViews_withLog, List.forIn_cons, runOn_bind, runOn_within,
    runOn_writeBlocked]
  rfl

/-- A check that passes has written its report and, in a directory that it made, its log view. -/
theorem call_outputs_logged :
    ∃ r o f', Reports plainStamp (withLog "out/c.log") inputs r ∧
      (call Files.disk plainStamp (wordsWithLog "out/c.log")).run inputs = (o, f') ∧ o.code = 0 ∧
      f'.text? ["r.json"] = some r.serialize ∧ f'.text? ["out", "c.log"] = some (r.render .log) := by
  obtain ⟨r₀, hr₀, hpass⟩ := reports_inputs "out/c.log"
  obtain ⟨g, hdeliver⟩ := deliver_logged r₀
  have hwords : Request.ofArgs plainStamp.version (wordsWithLog "out/c.log") =
      .check (withLog "out/c.log") := by rfl
  have hcall : (call Files.disk plainStamp (wordsWithLog "out/c.log")).run inputs =
      ({ code := 0 }, g) := by
    rw [call_eq_of_check hwords, runOn_check_of_reports hr₀, hdeliver, hpass]
    rfl
  obtain ⟨r, hr, -, -, hfiles⟩ := (call_outputs hwords hcall).2 (by decide)
  have hreportAt : inputs.place "r.json" = ["r.json"] := by rfl
  have hlogAt : inputs.place "out/c.log" = ["out", "c.log"] := by rfl
  have hplaces : ((outputs (withLog "out/c.log") r).map fun out => inputs.place out.1).Nodup := by
    show [inputs.place "r.json", inputs.place "out/c.log"].Nodup
    rw [hreportAt, hlogAt]
    decide
  obtain ⟨hreport, hviews⟩ := hfiles hplaces
  have hlog := hviews (.log, "out/c.log") List.mem_cons_self
  exact ⟨r, _, _, hr, hcall, rfl, hreportAt ▸ hreport, hlogAt ▸ hlog⟩

/-- A failing check need not leave the files as they were: where the log view is wanted below a
regular file, the report stays. -/
theorem not_call_leaves_files :
    ¬ ∀ (stamp : Run.Stamp) (words : List String) (files : CheckFiles) (f f' : Files) (o : Outcome),
      Request.ofArgs stamp.version words = .check files →
        (call Files.disk stamp words).run f = (o, f') → o.code = 1 →
          ∀ p, f'.text? p = f.text? p := by
  intro h
  obtain ⟨r, hr, -⟩ := reports_inputs "e.json/x"
  have hwords : Request.ofArgs plainStamp.version (wordsWithLog "e.json/x") =
      .check (withLog "e.json/x") := by rfl
  obtain ⟨o, hcall, hcode⟩ : ∃ o, (call Files.disk plainStamp (wordsWithLog "e.json/x")).run inputs =
      (o, inputs.put ["r.json"] (.file r.serialize)) ∧ o.code = 1 := by
    rw [call_eq_of_check hwords, runOn_check_of_reports hr, deliver_blocked]
    exact ⟨_, rfl, rfl⟩
  have hsame := h _ _ _ _ _ _ hwords hcall hcode ["r.json"]
  rw [Files.text?_put_file (by decide), if_pos rfl] at hsame
  have hnone : inputs.text? ["r.json"] = none := by rfl
  rw [hnone] at hsame
  cases hsame

end Blocked

end Signoff.Command.Tool
