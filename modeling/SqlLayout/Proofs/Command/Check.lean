import SqlLayout.Command.Run
import SqlLayout.Proofs.Tree.Build

/-!
# Checking and rewriting

A check succeeds exactly when rewriting the same files succeeds without writing any of them.

## Implementation notes

Rewriting changes the folder in which the later files are read.  Up to the first file that is not
its layout it has changed nothing but its messages, so until then both commands see the same files;
from then on the check has failed, and the rewriting has failed or written a file.
-/

namespace SqlLayout.Command

/-! ## Actions that change nothing but the messages -/

/-- Whether an action ends with the given result in a folder and does nothing besides saying
things. -/
def Answers (folder : Folder) (action : Run α) (result : Except Failure α) : Prop :=
  ∀ session : Session, session.folder = folder →
    ∃ errors, action.run session = (result, { session with errors := errors })

theorem bind_eq_ok {ε α β : Type} {action : Except ε α} {next : α → Except ε β} {b : β} :
    action >>= next = .ok b ↔ ∃ a, action = .ok a ∧ next a = .ok b := by
  refine ⟨fun h => Tree.bind_ok h, ?_⟩
  rintro ⟨a, rfl, hnext⟩
  exact hnext

theorem run_bind (action : Run α) (next : α → Run β) (session : Session) :
    (action >>= next).run session = match action.run session with
      | (.ok a, session) => (next a).run session
      | (.error failure, session) => (.error failure, session) := by
  change (action.run >>= ExceptT.bindCont next) session = _
  change ExceptT.bindCont next (action.run session).1 (action.run session).2 = _
  obtain ⟨result, after⟩ := action.run session
  cases result <;> rfl

theorem run_bind_eq_ok {action : Run α} {next : α → Run β} {session after : Session} {b : β} :
    (action >>= next).run session = (.ok b, after) ↔
      ∃ a middle, action.run session = (.ok a, middle) ∧ (next a).run middle = (.ok b, after) := by
  rw [run_bind]
  obtain ⟨result, middle⟩ := action.run session
  cases result with
  | error failure => exact iff_of_false (fun h => nomatch h) (fun ⟨_, _, h, _⟩ => nomatch h)
  | ok a =>
      refine ⟨fun h => ⟨a, middle, rfl, h⟩, ?_⟩
      rintro ⟨found, other, hsame, hrun⟩
      obtain ⟨hfound, rfl⟩ := Prod.mk.inj hsame
      obtain rfl := Except.ok.inj hfound
      exact hrun

theorem run_pure_eq_ok {session after : Session} {a b : α} :
    (pure a : Run α).run session = (.ok b, after) ↔ a = b ∧ session = after :=
  ⟨fun h => ⟨Except.ok.inj (Prod.mk.inj h).1, (Prod.mk.inj h).2⟩,
    fun ⟨ha, hsession⟩ => ha ▸ hsession ▸ rfl⟩

theorem run_get_eq_ok {session after found : Session} :
    (get : Run Session).run session = (.ok found, after) ↔ session = found ∧ session = after :=
  run_pure_eq_ok

theorem run_ofExcept_eq_ok {result : Except Failure α} {session after : Session} {a : α} :
    (Run.ofExcept result).run session = (.ok a, after) ↔ result = .ok a ∧ session = after :=
  Prod.mk.injEq _ _ _ _ ▸ Iff.rfl

namespace Answers

variable {folder : Folder}

theorem of_pure (a : α) : Answers folder (pure a) (.ok a) :=
  fun session _ => ⟨session.errors, rfl⟩

theorem ofExcept (result : Except Failure α) : Answers folder (Run.ofExcept result) result :=
  fun session _ => ⟨session.errors, rfl⟩

theorem say (text : String) : Answers folder (Run.say text) (.ok ()) :=
  fun _ _ => ⟨_, rfl⟩

theorem logging (threshold : Settings.Level) (action : Logged Error α) :
    Answers folder (Run.logging threshold action) (action.events.1.mapError .layout) :=
  fun _ _ => ⟨_, rfl⟩

theorem bind {action : Run α} {result : Except Failure α} {next : α → Run β}
    {final : α → Except Failure β} (haction : Answers folder action result)
    (hnext : ∀ a, result = .ok a → Answers folder (next a) (final a)) :
    Answers folder (action >>= next) (result >>= final) := by
  intro session hfolder
  obtain ⟨errors, hrun⟩ := haction session hfolder
  rw [run_bind, hrun]
  cases hresult : result with
  | error failure => exact ⟨errors, rfl⟩
  | ok a =>
      obtain ⟨later, hlater⟩ := hnext a hresult { session with errors := errors } hfolder
      exact ⟨later, hlater⟩

theorem get_bind {next : Session → Run α} {result : Except Failure α}
    (h : ∀ session : Session, session.folder = folder → Answers folder (next session) result) :
    Answers folder (get >>= next) result :=
  fun session hfolder => h session hfolder session hfolder

theorem forM {f : α → Run Unit} {items : List α}
    (h : ∀ item ∈ items, Answers folder (f item) (.ok ())) :
    Answers folder (items.forM f) (.ok ()) := by
  induction items with
  | nil => exact .of_pure ()
  | cons item rest ih =>
      obtain ⟨hitem, hrest⟩ := List.forall_mem_cons.1 h
      exact hitem.bind fun _ _ => ih hrest

theorem filterM {f : α → Run Bool} {g : α → Except Failure Bool} {items : List α}
    (h : ∀ item ∈ items, Answers folder (f item) (g item)) :
    Answers folder (items.filterM f) (items.filterM g) := by
  have haux (found : List α) : Answers folder (items.filterAuxM f found)
      (items.filterAuxM g found) := by
    induction items generalizing found with
    | nil => exact .of_pure found
    | cons item rest ih =>
        obtain ⟨hitem, hrest⟩ := List.forall_mem_cons.1 h
        exact hitem.bind fun _ _ => ih hrest _
  exact (haux []).bind fun _ _ => .of_pure _

end Answers

/-- What reading a file gives. -/
def sourceAt (folder : Folder) (path : String) : Except Failure String :=
  match folder.read path with
  | .ok (some text) => .ok (String.ofList (lineFeeds text.toList))
  | .ok none => .error (.fileNotFound path)
  | .error fault => .error (.unusable (placeOf path).path fault)

/-- What laying out a source gives. -/
def layoutOf (language : Language) (settings : Settings) (source : String) :
    Except Failure String :=
  (formatIn language settings source).events.1.mapError .layout

/-- Whether a file is not its layout, unless it cannot be read or laid out. -/
def verdict (language : Language) (settings : Settings) (folder : Folder) (path : String) :
    Except Failure Bool := do
  let source ← sourceAt folder path
  return (← layoutOf language settings source) != source

section

variable {folder : Folder} {path : String} (job : Job)

theorem answers_readSource (h : path ≠ inputPath) :
    Answers folder (Run.readSource path) (sourceAt folder path) := by
  rintro session rfl
  refine ⟨session.errors, ?_⟩
  have hpath : (path == inputPath) = false := by simpa using h
  change (if (path == inputPath) = true then _ else _ : Run String).run session = _
  rw [hpath]
  change (match session.folder.read path with
    | .ok (some text) => _
    | .ok none => _
    | .error fault => _ : Run String).run session = _
  unfold sourceAt
  split <;> rfl

theorem answers_layout (source : String) :
    Answers folder (job.layout source) (layoutOf job.language job.settings source) :=
  .logging job.threshold (formatIn job.language job.settings source)

theorem answers_differs (h : path ≠ inputPath) :
    Answers folder (job.differs path) (verdict job.language job.settings folder path) :=
  (answers_readSource h).bind fun source _ => (answers_layout job source).bind fun _ _ => .of_pure _

/-- A file that stays as it is, or that cannot be read or laid out, leaves the folder as it is. -/
theorem answers_replace (hpath : path ≠ inputPath)
    (h : verdict job.language job.settings folder path ≠ .ok true) :
    Answers folder (job.replace path) ((verdict job.language job.settings folder path).map fun _ =>
      ()) := by
  have hresult : (verdict job.language job.settings folder path).map (fun _ => ()) =
      sourceAt folder path >>= fun source => layoutOf job.language job.settings source >>=
        fun _ => .ok () := by
    rw [verdict]
    generalize layoutOf job.language job.settings = layout
    cases sourceAt folder path with
    | error failure => rfl
    | ok source =>
        change (layout source >>= fun _ => _).map _ = layout source >>= _
        cases layout source <;> rfl
  rw [hresult]
  refine (answers_readSource hpath).bind fun source hsource =>
    (answers_layout job source).bind fun formatted hlayout => ?_
  have hsame : ¬ (formatted != source) = true := by
    intro hdiffers
    exact h (bind_eq_ok.2 ⟨source, hsource,
      bind_eq_ok.2 ⟨formatted, hlayout, congrArg Except.ok hdiffers⟩⟩)
  rw [if_neg hsame]
  exact .say _

end

/-! ## Written files -/

/-- Whether an action notes the files that it writes: the list of written files only gets longer,
and the folder stays as it is unless it does. -/
def Notes (action : Run α) : Prop :=
  ∀ session : Session, session.written <+: (action.run session).2.written ∧
    ((action.run session).2.written = session.written →
      (action.run session).2.folder = session.folder)

namespace Notes

theorem of_same {action : Run α}
    (h : ∀ session : Session, (action.run session).2.written = session.written ∧
      (action.run session).2.folder = session.folder) : Notes action :=
  fun session => ⟨(h session).1 ▸ List.prefix_rfl, fun _ => (h session).2⟩

theorem of_pure (a : α) : Notes (pure a) :=
  of_same fun _ => ⟨rfl, rfl⟩

theorem ofExcept (result : Except Failure α) : Notes (Run.ofExcept result) :=
  of_same fun _ => ⟨rfl, rfl⟩

theorem say (text : String) : Notes (Run.say text) :=
  of_same fun _ => ⟨rfl, rfl⟩

theorem print (text : String) : Notes (Run.print text) :=
  of_same fun _ => ⟨rfl, rfl⟩

theorem logging (threshold : Settings.Level) (action : Logged Error α) :
    Notes (Run.logging threshold action) :=
  of_same fun _ => ⟨rfl, rfl⟩

theorem readSource (path : String) : Notes (Run.readSource path) := by
  refine of_same fun session => ?_
  by_cases hpath : path = inputPath
  · subst hpath
    exact ⟨rfl, rfl⟩
  · obtain ⟨errors, hrun⟩ := answers_readSource hpath session rfl
    rw [hrun]
    exact ⟨rfl, rfl⟩

theorem run_writeFile (path text : String) (session : Session) :
    (Run.writeFile path text).run session = match session.folder.write path text with
      | .ok folder =>
        (.ok (), { session with folder := folder, written := session.written ++ [path] })
      | .error fault => (.error (.unusable (placeOf path).path fault), session) := by
  have hget : (get : Run Session).run session = (.ok session, session) := rfl
  rw [Run.writeFile, run_bind, hget]
  dsimp only
  cases session.folder.write path text <;> rfl

theorem writeFile (path text : String) : Notes (Run.writeFile path text) := by
  intro session
  rw [run_writeFile]
  split
  · exact ⟨List.prefix_append _ _, fun h => by simp at h⟩
  · exact ⟨List.prefix_rfl, fun _ => rfl⟩

theorem bind {action : Run α} {next : α → Run β} (haction : Notes action)
    (hnext : ∀ a, Notes (next a)) :
    Notes (action >>= next) := by
  intro session
  have hfirst := haction session
  rw [run_bind]
  generalize action.run session = first at hfirst ⊢
  obtain ⟨result, after⟩ := first
  cases result with
  | error failure => exact hfirst
  | ok a =>
      obtain ⟨hbefore, hfolder⟩ := hfirst
      obtain ⟨hafter, hlater⟩ := hnext a after
      refine ⟨hbefore.trans hafter, fun hsame => ?_⟩
      have hnone : after.written = session.written :=
        (hsame ▸ hafter).eq_of_length_le hbefore.length_le
      exact (hlater (hsame.trans hnone.symm)).trans (hfolder hnone)

theorem get_bind {next : Session → Run α} (h : ∀ session, Notes (next session)) :
    Notes (get >>= next) :=
  fun session => h session session

theorem forM {f : α → Run Unit} (h : ∀ item, Notes (f item)) (items : List α) :
    Notes (items.forM f) := by
  induction items with
  | nil => exact .of_pure ()
  | cons item rest ih => exact (h item).bind fun _ => ih

theorem mapM {f : α → Run β} (h : ∀ item, Notes (f item)) (items : List α) :
    Notes (items.mapM f) := by
  induction items with
  | nil => exact .of_pure []
  | cons item rest ih =>
      rw [List.mapM_cons]
      exact (h item).bind fun _ => ih.bind fun _ => .of_pure _

theorem filterM {f : α → Run Bool} (h : ∀ item, Notes (f item)) (items : List α) :
    Notes (items.filterM f) := by
  have haux (found : List α) : Notes (items.filterAuxM f found) := by
    induction items generalizing found with
    | nil => exact .of_pure found
    | cons item rest ih => exact (h item).bind fun _ => ih _
  exact (haux []).bind fun _ => .of_pure _

end Notes

theorem notes_replace (job : Job) (path : String) : Notes (job.replace path) := by
  refine (Notes.readSource path).bind fun source => (Notes.logging _ _).bind fun formatted => ?_
  split
  · exact (Notes.writeFile path formatted).bind fun _ => .say _
  · exact .say _

theorem notes_emit (job : Job) (paths : List String) (output : Option String) :
    Notes (job.emit paths output) := by
  have hlayout (path : String) : Notes (job.layoutAt path) :=
    (Notes.readSource path).bind fun _ => .logging _ _
  refine (Notes.mapM hlayout paths).bind fun results => ?_
  split
  · exact (Notes.writeFile _ _).bind fun _ => .say _
  · exact .print _

theorem notes_compare (job : Job) (paths : List String) : Notes (job.compare paths) := by
  have hdiffers (path : String) : Notes (job.differs path) :=
    (Notes.readSource path).bind fun _ => (Notes.logging _ _).bind fun _ => .of_pure _
  refine (Notes.filterM hdiffers paths).bind fun differing => ?_
  split
  · exact (Notes.say _).bind fun _ => .of_pure _
  · exact (Notes.forM (fun _ => .say _) differing).bind fun _ => (Notes.say _).bind fun _ =>
      .of_pure _

theorem notes_showTree (job : Job) (path : String) : Notes (job.showTree path) :=
  (Notes.readSource path).bind fun _ => (Notes.logging _ _).bind fun _ => .print _

/-- No command changes the folder without noting the file that it writes. -/
theorem notes_execute (env : List (String × String)) (command : Command) :
    Notes (execute env command) := by
  cases command with
  | format paths write output dialect strict verbose =>
      refine .get_bind fun session => (Notes.ofExcept _).bind fun settings => ?_
      have hjob : Notes (do
          let job ← Run.ofExcept (jobOf settings verbose)
          if write then paths.forM job.replace else job.emit paths output
          return 0) := by
        refine (Notes.ofExcept _).bind fun job => ?_
        split
        · exact (Notes.forM (notes_replace job) paths).bind fun _ => .of_pure 0
        · exact (notes_emit job paths output).bind fun _ => .of_pure 0
      dsimp only
      split
      · exact (Notes.ofExcept _).bind fun _ => hjob
      · exact hjob
  | check paths dialect verbose =>
      refine .get_bind fun session => (Notes.ofExcept _).bind fun settings =>
        (Notes.ofExcept _).bind fun job => ?_
      exact (notes_compare job paths).bind fun _ => .of_pure _
  | showTree path dialect =>
      refine .get_bind fun session => (Notes.ofExcept _).bind fun settings =>
        (Notes.ofExcept _).bind fun job => ?_
      exact (notes_showTree job path).bind fun _ => .of_pure 0
  | help => exact (Notes.print _).bind fun _ => .of_pure 0

/-! ## The two commands -/

/-- A file that is not its layout is written, unless that fails. -/
theorem replace_writes {job : Job} {path : String} {session : Session} (hpath : path ≠ inputPath)
    (h : verdict job.language job.settings session.folder path = .ok true) :
    (∃ failure, ((job.replace path).run session).1 = .error failure) ∨
      ((job.replace path).run session).2.written = session.written ++ [path] := by
  obtain ⟨source, hsource, hlayout⟩ := Tree.bind_ok h
  obtain ⟨formatted, hformatted, hdiffers⟩ := Tree.bind_ok hlayout
  have hdiffers : (formatted != source) = true := Except.ok.inj hdiffers
  obtain ⟨errors, hread⟩ := answers_readSource hpath session rfl
  obtain ⟨later, hrun⟩ := answers_layout job source { session with errors := errors } rfl
  rw [Job.replace, run_bind, hread, hsource]
  dsimp only
  rw [run_bind, hrun, hformatted]
  dsimp only
  rw [if_pos hdiffers, run_bind, Notes.run_writeFile]
  dsimp only
  cases session.folder.write path formatted with
  | ok folder => exact .inr rfl
  | error fault => exact .inl ⟨_, rfl⟩

/-- Rewriting files succeeds without writing any exactly when each of them is its layout. -/
theorem forM_replace (job : Job) {paths : List String} (hpaths : inputPath ∉ paths)
    (session : Session) :
    (∃ after : Session, (paths.forM job.replace).run session = (.ok (), after) ∧
      after.written = session.written) ↔
      ∀ path ∈ paths, verdict job.language job.settings session.folder path = .ok false := by
  induction paths generalizing session with
  | nil => exact ⟨fun _ _ h => (List.not_mem_nil h).elim, fun _ => ⟨session, rfl, rfl⟩⟩
  | cons path rest ih =>
      obtain ⟨hpath, hrest⟩ := not_or.1 (mt List.mem_cons.2 hpaths)
      have hstep : ((path :: rest).forM job.replace).run session = _ :=
        run_bind (job.replace path) (fun _ => rest.forM job.replace) session
      rw [List.forall_mem_cons]
      by_cases hverdict : verdict job.language job.settings session.folder path = .ok true
      · -- the file is written, and what is written is never forgotten
        refine iff_of_false ?_ (by simp [hverdict])
        rintro ⟨after, hrun, hsame⟩
        rw [hstep] at hrun
        have hwrites := replace_writes (Ne.symm hpath) hverdict
        generalize (job.replace path).run session = first at hrun hwrites
        obtain ⟨result, middle⟩ := first
        cases result with
        | error failure => cases hrun
        | ok _ =>
            obtain ⟨_, hfailure⟩ | hwritten := hwrites
            · cases hfailure
            · have hgrows := (Notes.forM (notes_replace job) rest middle).1
              change (rest.forM job.replace).run middle = _ at hrun
              rw [hrun, hwritten, hsame] at hgrows
              have hlonger := hgrows.length_le
              rw [List.length_append, List.length_singleton] at hlonger
              omega
      · obtain ⟨errors, hrun⟩ := answers_replace job (Ne.symm hpath) hverdict session rfl
        rw [hstep, hrun]
        cases hresult : verdict job.language job.settings session.folder path with
        | error failure => exact iff_of_false (fun ⟨_, h, _⟩ => nomatch h) (fun h => nomatch h.1)
        | ok differs =>
            obtain rfl : differs = false := by simpa [hresult] using hverdict
            refine (ih hrest { session with errors := errors }).trans ?_
            exact ⟨fun h => ⟨rfl, h⟩, And.right⟩

theorem jobOf_eq_ok {settings : Settings} {verbose : Bool} {job : Job} :
    jobOf settings verbose = .ok job ↔ ∃ language, Language.named settings.dialect = .ok language ∧
      job = { settings := settings, language := language
              threshold := if verbose then .debug else settings.level } := by
  unfold jobOf
  cases Language.named settings.dialect with
  | error error => exact iff_of_false (fun h => nomatch h) (fun ⟨_, h, _⟩ => nomatch h)
  | ok language =>
      refine ⟨fun h => ⟨language, rfl, (Except.ok.inj h).symm⟩, ?_⟩
      rintro ⟨found, hfound, rfl⟩
      obtain rfl := Except.ok.inj hfound
      rfl

/-- Whether the settings can be used and each of the files is its layout. -/
def AllLaidOut (surroundings : Surroundings) (dialect : Option String) (paths : List String) :
    Prop :=
  ∃ settings language, settingsOf surroundings.env surroundings.folder dialect none = .ok settings ∧
    Language.named settings.dialect = .ok language ∧
      ∀ path ∈ paths, verdict language settings surroundings.folder path = .ok false

/-- No file differs exactly when each of them is its layout. -/
theorem filterM_eq_nil {f : String → Except Failure Bool} {paths : List String} :
    paths.filterM f = .ok [] ↔ ∀ path ∈ paths, f path = .ok false := by
  have haux (found : List String) :
      paths.filterAuxM f found = .ok [] ↔ found = [] ∧ ∀ path ∈ paths, f path = .ok false := by
    induction paths generalizing found with
    | nil => simp [List.filterAuxM, pure, Except.pure]
    | cons path rest ih =>
        rw [List.filterAuxM, List.forall_mem_cons]
        cases f path with
        | error failure => exact iff_of_false (fun h => nomatch h) (fun h => nomatch h.2.1)
        | ok differs =>
            refine (ih _).trans ?_
            cases differs <;> simp
  have hreverse : paths.filterM f = (paths.filterAuxM f []).map List.reverse := rfl
  have hall := haux []
  rw [hreverse]
  cases hfound : paths.filterAuxM f [] with
  | error failure => simpa [hfound, Except.map] using hall
  | ok differing => simpa [hfound, Except.map] using hall

/-! ## Outcomes -/

/-- The session in which a command starts. -/
def Surroundings.start (surroundings : Surroundings) : Session where
  folder := surroundings.folder
  input := surroundings.input

section

variable (surroundings : Surroundings) (command : Command)

/-- The outcome of a command, by the session in which it ends. -/
theorem run_spec :
    ((run surroundings command).exitCode = 0 ↔
      ((execute surroundings.env command).run surroundings.start).1 = .ok 0) ∧
    (run surroundings command).written =
      ((execute surroundings.env command).run surroundings.start).2.written ∧
    (run surroundings command).folder =
      ((execute surroundings.env command).run surroundings.start).2.folder := by
  have hstart : surroundings.start =
      { folder := surroundings.folder, input := surroundings.input } := rfl
  rw [hstart, run]
  generalize (execute surroundings.env command).run _ = ended
  obtain ⟨result, session⟩ := ended
  cases result with
  | error failure => simp
  | ok code => simp

/-- A command that writes no file leaves the folder as it is. -/
theorem folder_of_written_nil (h : (run surroundings command).written = []) :
    (run surroundings command).folder = surroundings.folder := by
  obtain ⟨-, hwritten, hfolder⟩ := run_spec surroundings command
  rw [hwritten] at h
  rw [hfolder]
  exact (notes_execute surroundings.env command surroundings.start).2 h

end

theorem answers_compare {folder : Folder} (job : Job) {paths : List String}
    (hpaths : inputPath ∉ paths) :
    Answers folder (job.compare paths)
      (paths.filterM (verdict job.language job.settings folder) >>= fun differing =>
        .ok !differing.isEmpty) := by
  have hdiffers : ∀ path ∈ paths,
      Answers folder (job.differs path) (verdict job.language job.settings folder path) :=
    fun path hpath => answers_differs job fun heq => hpaths (heq ▸ hpath)
  refine (Answers.filterM hdiffers).bind fun differing _ => ?_
  split
  · next hnone =>
      rw [hnone]
      exact (Answers.say _).bind fun _ _ => .of_pure _
  · next hsome =>
      rw [Bool.eq_false_iff.2 hsome]
      exact (Answers.forM fun _ _ => .say _).bind fun _ _ => (Answers.say _).bind fun _ _ =>
        .of_pure _

section

variable (surroundings : Surroundings) {paths : List String}

/-- A check succeeds exactly when each of the files is its layout. -/
theorem check_exitCode (hpaths : inputPath ∉ paths) (dialect : Option String) (verbose : Bool) :
    (run surroundings (.check paths dialect verbose)).exitCode = 0 ↔
      AllLaidOut surroundings dialect paths := by
  have hanswer : Answers surroundings.folder
    (execute surroundings.env (.check paths dialect verbose)) (do
      let settings ← settingsOf surroundings.env surroundings.folder dialect none
      let job ← jobOf settings verbose
      let differing ← paths.filterM (verdict job.language job.settings surroundings.folder) >>=
        fun differing => .ok !differing.isEmpty
      return if differing then 1 else 0) := by
    refine .get_bind fun session hfolder => ?_
    rw [hfolder]
    refine (Answers.ofExcept _).bind fun settings _ => (Answers.ofExcept _).bind fun job _ => ?_
    exact (answers_compare job hpaths).bind fun differing _ => .of_pure _
  obtain ⟨errors, hrun⟩ := hanswer surroundings.start rfl
  rw [(run_spec surroundings _).1, hrun, AllLaidOut]
  constructor
  · intro hok
    obtain ⟨settings, hsettings, hok⟩ := Tree.bind_ok hok
    obtain ⟨job, hjob, hok⟩ := Tree.bind_ok hok
    obtain ⟨differs, hdiffers, hzero⟩ := Tree.bind_ok hok
    obtain ⟨differing, hfilter, hempty⟩ := Tree.bind_ok hdiffers
    obtain ⟨language, hlanguage, rfl⟩ := jobOf_eq_ok.1 hjob
    have hnone : differing = [] := by
      obtain rfl := Except.ok.inj hempty
      have hcode : (if (!differing.isEmpty) = true then 1 else 0) = 0 := Except.ok.inj hzero
      simpa using hcode
    exact ⟨settings, language, hsettings, hlanguage, filterM_eq_nil.1 (hnone ▸ hfilter)⟩
  · rintro ⟨settings, language, hsettings, hlanguage, hall⟩
    have hjob : jobOf settings verbose = .ok _ := jobOf_eq_ok.2 ⟨language, hlanguage, rfl⟩
    exact bind_eq_ok.2 ⟨settings, hsettings,
      bind_eq_ok.2 ⟨_, hjob, bind_eq_ok.2 ⟨false, bind_eq_ok.2 ⟨[], filterM_eq_nil.2 hall, rfl⟩,
      rfl⟩⟩⟩

theorem execute_rewrite (env : List (String × String)) {paths : List String} (h : inputPath ∉ paths)
    (output dialect : Option String) (strict : Option Bool) (verbose : Bool) :
    execute env (.format paths true output dialect strict verbose) = (do
      let session ← get
      let settings ← Run.ofExcept (settingsOf env session.folder dialect strict)
      let job ← Run.ofExcept (jobOf settings verbose)
      paths.forM job.replace
      return 0) := by
  simp [execute, h]

/-- Rewriting succeeds without writing exactly when each of the files is its layout. -/
theorem rewrite_exitCode (hpaths : inputPath ∉ paths) (output dialect : Option String)
    (verbose : Bool) :
    (run surroundings (.format paths true output dialect none verbose)).exitCode = 0 ∧
        (run surroundings (.format paths true output dialect none verbose)).written = [] ↔
      AllLaidOut surroundings dialect paths := by
  obtain ⟨hcode, hwritten, -⟩ :=
    run_spec surroundings (.format paths true output dialect none verbose)
  have hrun (after : Session) :
      (execute surroundings.env (.format paths true output dialect none verbose)).run
        surroundings.start =
          (.ok 0, after) ↔
        ∃ settings job, settingsOf surroundings.env surroundings.folder dialect none =
          .ok settings ∧
          jobOf settings verbose = .ok job ∧ (paths.forM job.replace).run surroundings.start =
            (.ok (), after) := by
    rw [execute_rewrite surroundings.env hpaths]
    simp only [run_bind_eq_ok, run_ofExcept_eq_ok, run_pure_eq_ok, run_get_eq_ok]
    constructor
    · rintro ⟨_, _, ⟨rfl, rfl⟩, settings, _, ⟨hsettings, rfl⟩, job, _, ⟨hjob, rfl⟩, _, _,
        hreplace, -, rfl⟩
      exact ⟨settings, job, hsettings, hjob, hreplace⟩
    · rintro ⟨settings, job, hsettings, hjob, hreplace⟩
      exact ⟨_, _, ⟨rfl, rfl⟩, settings, _, ⟨hsettings, rfl⟩, job, _, ⟨hjob, rfl⟩, (), after,
        hreplace, trivial, rfl⟩
  rw [hcode, hwritten, AllLaidOut]
  generalize (execute surroundings.env (.format paths true output dialect none verbose)).run
    surroundings.start =
    ended at hrun ⊢
  obtain ⟨result, after⟩ := ended
  constructor
  · rintro ⟨rfl, hnone⟩
    obtain ⟨settings, job, hsettings, hjob, hreplace⟩ := (hrun after).1 rfl
    obtain ⟨language, hlanguage, rfl⟩ := jobOf_eq_ok.1 hjob
    have hall := (forM_replace _ hpaths surroundings.start).1 ⟨after, hreplace, hnone⟩
    exact ⟨settings, language, hsettings, hlanguage, hall⟩
  · rintro ⟨settings, language, hsettings, hlanguage, hall⟩
    let job : Job := { settings, language, threshold := if verbose then .debug else settings.level }
    have hjob : jobOf settings verbose = .ok job := jobOf_eq_ok.2 ⟨language, hlanguage, rfl⟩
    obtain ⟨later, hreplace, hnone⟩ := (forM_replace job hpaths surroundings.start).2 hall
    obtain ⟨rfl, rfl⟩ := Prod.mk.inj ((hrun later).2 ⟨settings, job, hsettings, hjob, hreplace⟩)
    exact ⟨rfl, hnone⟩

/-- A check succeeds exactly when rewriting the files in place succeeds without writing any; then
the rewriting leaves the folder as it is. -/
theorem check_agrees_with_rewriting (hpaths : inputPath ∉ paths) (output dialect : Option String)
    (checkVerbose formatVerbose : Bool) :
    ((run surroundings (.check paths dialect checkVerbose)).exitCode = 0 ↔
      (run surroundings (.format paths true output dialect none formatVerbose)).exitCode = 0 ∧
        (run surroundings (.format paths true output dialect none formatVerbose)).written = []) ∧
    ((run surroundings (.format paths true output dialect none formatVerbose)).written = [] →
      (run surroundings (.format paths true output dialect none formatVerbose)).folder =
        surroundings.folder) :=
  ⟨(check_exitCode surroundings hpaths dialect checkVerbose).trans
      (rewrite_exitCode surroundings hpaths output dialect formatVerbose).symm,
    folder_of_written_nil surroundings _⟩

end

/-- A file that is its layout, named by three paths, and a file that is not its layout before it. -/
theorem check_agrees_with_rewriting_repeated :
    let surroundings : Surroundings :=
      { folder := { files := [(["a.sql"], "GRANT USAGE ON SCHEMA s TO ROLE r;\nselect b;\n"),
                              (["b.sql"], "SELECT a\n;\n")] } }
    let paths := ["b.sql", "./b.sql", "b.sql"]
    inputPath ∉ paths ∧ (run surroundings (.check paths none false)).exitCode = 0 ∧
      (run surroundings (.format paths true none none none true)).exitCode = 0 ∧
      (run surroundings (.format paths true none none none true)).written = [] ∧
      inputPath ∉ "a.sql" :: paths ∧
        (run surroundings (.check ("a.sql" :: paths) none false)).exitCode ≠ 0 ∧
      ¬ ((run surroundings (.format ("a.sql" :: paths) true none none none false)).exitCode = 0 ∧
        (run surroundings (.format ("a.sql" :: paths) true none none none false)).written =
          []) := by
  intro surroundings paths
  have hpaths : inputPath ∉ paths := by decide
  have hmore : inputPath ∉ "a.sql" :: paths := by decide
  obtain ⟨hcheck, hdiffers⟩ : (run surroundings (.check paths none false)).exitCode = 0 ∧
      (run surroundings (.check ("a.sql" :: paths) none false)).exitCode ≠ 0 := by decide +kernel
  obtain ⟨hformat, hwritten⟩ :=
    (check_agrees_with_rewriting surroundings hpaths none none false true).1.1 hcheck
  have hagrees := (check_agrees_with_rewriting surroundings hmore none none false false).1
  exact ⟨hpaths, hcheck, hformat, hwritten, hmore, hdiffers,
    fun hnone => hdiffers (hagrees.2 hnone)⟩

end SqlLayout.Command
