import SqlLayout.Proofs.Command.Check
import Mathlib.Logic.Function.Iterate

/-!
# Formats that fail

A format that fails prints nothing.  Without rewriting it leaves all files as they are; with
rewriting it has laid out the files of the paths before the one at which it failed, and has left
every other file as it was.

## Implementation notes

Replacing the text of a file moves no path to another place, so the places of all paths can be read
off the folder in which the command starts.  A path that is listed again is laid out again, and a
layout need not be its own layout, so the text of a file is told by how often the paths led to it.
-/

namespace SqlLayout.Command

/-! ## Actions that leave files and output as they are -/

/-- Whether two sessions have the same files, have written the same files and have printed the
same. -/
structure Session.SameFiles (a b : Session) : Prop where
  folder : a.folder = b.folder
  written : a.written = b.written
  output : a.output = b.output

theorem Session.SameFiles.refl (session : Session) : session.SameFiles session :=
  ⟨rfl, rfl, rfl⟩

theorem Session.SameFiles.trans {a b c : Session} (hab : a.SameFiles b) (hbc : b.SameFiles c) :
    a.SameFiles c :=
  ⟨hab.folder.trans hbc.folder, hab.written.trans hbc.written, hab.output.trans hbc.output⟩

/-- Whether an action prints nothing and leaves all files as they are. -/
def Silent (action : Run α) : Prop :=
  ∀ session : Session, (action.run session).2.SameFiles session

/-- Whether an action that fails has printed nothing and has left all files as they are. -/
def FailsSilently (action : Run α) : Prop :=
  ∀ (session after : Session) (failure : Failure), action.run session = (.error failure, after) →
    after.SameFiles session

/-- Whether an action never fails. -/
def Succeeds (action : Run α) : Prop :=
  ∀ session : Session, ∃ a, (action.run session).1 = .ok a

theorem succeeds_say (text : String) : Succeeds (Run.say text) :=
  fun _ => ⟨(), rfl⟩

theorem succeeds_pure (a : α) : Succeeds (pure a : Run α) :=
  fun _ => ⟨a, rfl⟩

namespace Silent

theorem of_pure (a : α) : Silent (pure a) :=
  fun session => .refl session

theorem ofExcept (result : Except Failure α) : Silent (Run.ofExcept result) :=
  fun session => .refl session

theorem logging (threshold : Settings.Level) (action : Logged Error α) :
    Silent (Run.logging threshold action) :=
  fun _ => ⟨rfl, rfl, rfl⟩

theorem readSource (path : String) : Silent (Run.readSource path) := by
  intro session
  by_cases hpath : path = inputPath
  · subst hpath
    exact ⟨rfl, rfl, rfl⟩
  · obtain ⟨errors, hrun⟩ := answers_readSource hpath session rfl
    rw [hrun]
    exact ⟨rfl, rfl, rfl⟩

theorem bind {action : Run α} {next : α → Run β} (haction : Silent action)
    (hnext : ∀ a, Silent (next a)) :
    Silent (action >>= next) := by
  intro session
  have hfirst := haction session
  rw [run_bind]
  generalize action.run session = first at hfirst ⊢
  obtain ⟨result, after⟩ := first
  cases result with
  | error failure => exact hfirst
  | ok a => exact (hnext a after).trans hfirst

theorem mapM {f : α → Run β} (h : ∀ item, Silent (f item)) (items : List α) :
    Silent (items.mapM f) := by
  induction items with
  | nil => exact .of_pure []
  | cons item rest ih =>
      rw [List.mapM_cons]
      exact (h item).bind fun _ => ih.bind fun _ => .of_pure _

end Silent

namespace FailsSilently

theorem writeFile (path text : String) : FailsSilently (Run.writeFile path text) := by
  intro session after failure hrun
  rw [Notes.run_writeFile] at hrun
  split at hrun
  · cases hrun
  · obtain ⟨-, rfl⟩ := Prod.mk.inj hrun
    exact .refl session

theorem print (text : String) : FailsSilently (Run.print text) :=
  fun _ _ _ hrun => nomatch hrun

theorem bind {action : Run α} {next : α → Run β} (haction : Silent action)
    (hnext : ∀ a, FailsSilently (next a)) :
    FailsSilently (action >>= next) := by
  intro session after failure hrun
  have hfirst := haction session
  rw [run_bind] at hrun
  generalize action.run session = first at hfirst hrun
  obtain ⟨result, middle⟩ := first
  cases result with
  | error fault =>
      obtain ⟨-, rfl⟩ := Prod.mk.inj hrun
      exact hfirst
  | ok a => exact (hnext a middle after failure hrun).trans hfirst

theorem get_bind {next : Session → Run α} (h : ∀ session, FailsSilently (next session)) :
    FailsSilently (get >>= next) :=
  fun session => h session session

theorem error_bind (failure : Failure) (next : α → Run β) :
    FailsSilently (Run.ofExcept (.error failure) >>= next) := by
  intro session after fault hrun
  obtain ⟨-, rfl⟩ := Prod.mk.inj hrun
  exact .refl session

theorem bind_succeeds {action : Run α} {next : α → Run β} (haction : FailsSilently action)
    (hnext : ∀ a, Succeeds (next a)) : FailsSilently (action >>= next) := by
  intro session after failure hrun
  rw [run_bind] at hrun
  cases hfirst : action.run session with
  | mk result middle =>
      rw [hfirst] at hrun
      cases result with
      | error fault =>
          obtain ⟨-, rfl⟩ := Prod.mk.inj hrun
          exact haction session middle fault hfirst
      | ok a =>
          obtain ⟨b, hb⟩ := hnext a middle
          rw [show (next a).run middle = (.error failure, after) from hrun] at hb
          cases hb

end FailsSilently

/-- Printing layouts, or writing them to a file, changes nothing when it fails. -/
theorem failsSilently_emit (job : Job) (paths : List String) (output : Option String) :
    FailsSilently (job.emit paths output) := by
  have hlayout (path : String) : Silent (job.layoutAt path) :=
    (Silent.readSource path).bind fun _ => .logging _ _
  refine .bind (Silent.mapM hlayout paths) fun results => ?_
  split
  · exact (FailsSilently.writeFile _ _).bind_succeeds fun _ => succeeds_say _
  · exact .print _

/-! ## Places of paths -/

namespace Folder

variable {folder : Folder} {place : Place} {text : String}

/-- A file that gets another text leaves the files whose bytes are no text as they are. -/
theorem faults_put (h : (folder.file? place).isSome = true) :
    (folder.put place text).faults = folder.faults := by
  rw [put, if_pos h]

theorem places_put (h : (folder.file? place).isSome = true) :
    (folder.put place text).places = folder.places := by
  have hplaces (file : Place × String) :
      (if file.1 = place then (place, text) else file).1 = file.1 := by
    split
    · next heq => exact heq.symm
    · rfl
  simp only [places, put, if_pos h, List.map_map, Function.comp_def, hplaces]

theorem hasFolder_put (h : (folder.file? place).isSome = true) (other : Place) :
    (folder.put place text).hasFolder other = folder.hasFolder other := by
  have hfolders : (folder.put place text).folders = folder.folders := by
    rw [put, if_pos h]
  rw [hasFolder, hasFolder, places_put h, hfolders]

theorem hasFile_put (h : (folder.file? place).isSome = true) (other : Place) :
    (folder.put place text).hasFile other = folder.hasFile other := by
  have hfile : ((folder.put place text).file? other).isSome = (folder.file? other).isSome := by
    rw [file?_put]
    split
    · next heq => simp [heq, h]
    · rfl
  rw [hasFile, hasFile, hfile, fault?, fault?, faults_put h]

/-- A file that gets another text moves no path to another place. -/
theorem locate_put (h : (folder.file? place).isSome = true) (path : String) :
    (folder.put place text).locate path = folder.locate path := by
  have hstep : (folder.put place text).step = folder.step := by
    funext other name
    simp only [step, hasFolder_put h, hasFile_put h]
  rw [locate, locate, hstep]

/-- Whether a path leads to a place. -/
def leads (folder : Folder) (place : Place) (path : String) : Bool :=
  (folder.locate path).toOption == some place

theorem leads_of_locate {folder : Folder} {path : String} {found : Place}
    (h : folder.locate path = .ok found) (place : Place) :
    folder.leads place path = (some found == some place) := by
  rw [leads, h, Except.toOption]

theorem leads_congr {folder other : Folder} (h : ∀ path, other.locate path = folder.locate path) :
    other.leads = folder.leads := by
  funext place path
  rw [leads, leads, h]

end Folder

/-! ## Laying out files in place -/

section

variable (language : Language) (settings : Settings)

/-- A file's text after the file was laid out in place. -/
def laidOutText (text : String) : String :=
  let source := String.ofList (lineFeeds text.toList)
  ((layoutOf language settings source).toOption.filter (· != source)).getD text

/-- What laying out a file in place leaves of a folder. -/
def layInPlace (folder : Folder) (path : String) : Except Failure Folder := do
  let source ← sourceAt folder path
  let formatted ← layoutOf language settings source
  if formatted != source then (folder.write path formatted).mapError (.unusable (placeOf path).path)
  else return folder

theorem sourceAt_eq_ok {folder : Folder} {path source : String}
    (h : sourceAt folder path = .ok source) :
    ∃ place text, folder.locate path = .ok place ∧ folder.file? place = some text ∧
      source = String.ofList (lineFeeds text.toList) := by
  unfold sourceAt Folder.read at h
  cases hlocate : folder.locate path with
  | error fault => cases fault <;> simp [hlocate] at h
  | ok place =>
      cases hfile : folder.file? place with
      | none => cases hfault : folder.fault? place <;> simp [hlocate, hfile, hfault] at h
      | some text =>
          refine ⟨place, text, rfl, hfile, ?_⟩
          simpa [hlocate, hfile] using h.symm

/-- Laying out a file gives it its laid out text, and changes no other file and no place. -/
theorem layInPlace_eq_ok {folder after : Folder} {path : String}
    (h : layInPlace language settings folder path = .ok after) :
    (∀ other, after.locate other = folder.locate other) ∧ after.faults = folder.faults ∧
      ∀ place, after.file? place = (folder.file? place).map fun text =>
        if folder.leads place path then laidOutText language settings text else text := by
  obtain ⟨source, hsource, h⟩ := Tree.bind_ok h
  obtain ⟨formatted, hformatted, h⟩ := Tree.bind_ok h
  obtain ⟨place, text, hlocate, hfile, rfl⟩ := sourceAt_eq_ok hsource
  have htext : laidOutText language settings text =
      if formatted != String.ofList (lineFeeds text.toList) then formatted else text := by
    rw [laidOutText, hformatted, Except.toOption, Option.filter_some]
    split <;> rfl
  have hleads (other : Place) : folder.leads other path = (some place == some other) :=
    Folder.leads_of_locate hlocate other
  split at h
  · next hdiffers =>
      have hput : after = folder.put place formatted := by
        simp only [Folder.write, hlocate, bind, Except.bind] at h
        split at h
        · cases h
        · exact (Except.ok.inj h).symm
      rw [if_pos hdiffers] at htext
      subst hput
      have hsome : (folder.file? place).isSome = true := by simp [hfile]
      refine ⟨Folder.locate_put hsome, Folder.faults_put hsome, fun other => ?_⟩
      rw [Folder.file?_put, hleads]
      by_cases hother : other = place
      · subst hother
        simp [hfile, htext]
      · have hne : (some place == some other) = false := by simpa using Ne.symm hother
        rw [if_neg hother, hne]
        simp
  · next hsame =>
      obtain rfl := Except.ok.inj h
      rw [if_neg hsame] at htext
      refine ⟨fun _ => rfl, rfl, fun other => ?_⟩
      rw [hleads]
      by_cases hother : place = other
      · subst hother
        simp [hfile, htext]
      · have hne : (some place == some other) = false := by simpa using hother
        rw [hne]
        simp

/-- Laying out files in place leaves those whose bytes are no text as they are. -/
theorem faults_foldlM {done : List String} {folder after : Folder}
    (h : done.foldlM (layInPlace language settings) folder = .ok after) :
    after.faults = folder.faults := by
  induction done generalizing folder with
  | nil =>
      obtain rfl : folder = after := Except.ok.inj h
      rfl
  | cons path done ih =>
      rw [List.foldlM_cons] at h
      obtain ⟨middle, hfirst, hrest⟩ := Tree.bind_ok h
      obtain ⟨-, hfaults, -⟩ := layInPlace_eq_ok language settings hfirst
      rw [ih hrest, hfaults]

/-- After files were laid out in place, each has been laid out as often as a path led to it. -/
theorem file?_foldlM {done : List String} {folder after : Folder}
    (h : done.foldlM (layInPlace language settings) folder = .ok after) (place : Place) :
    after.file? place =
      (folder.file? place).map
        ((laidOutText language settings)^[done.countP (folder.leads place)]) := by
  induction done generalizing folder with
  | nil =>
      obtain rfl : folder = after := Except.ok.inj h
      simp
  | cons path done ih =>
      rw [List.foldlM_cons] at h
      obtain ⟨middle, hfirst, hrest⟩ := Tree.bind_ok h
      obtain ⟨hlocate, -, hfile⟩ := layInPlace_eq_ok language settings hfirst
      rw [ih hrest, hfile, Folder.leads_congr hlocate, Option.map_map, List.countP_cons]
      refine congrArg (Option.map · _) (funext fun text => ?_)
      split
      · rw [Function.iterate_succ_apply, Function.comp_apply]
      · rfl

end

/-- Whether a rewriting has stopped at a path that fails.  The files of the paths before it were
laid out, each as often as a path led to it, and every other file is as it was; so a file has its
layout if one path led to it, or if its layout is its own layout. -/
structure StopsAt (job : Job) (before after : Folder) (done : List String) (path : String) :
    Prop where
  laid : done.foldlM (layInPlace job.language job.settings) before = .ok after
  fails : ∃ failure, layInPlace job.language job.settings after path = .error failure
  file?_eq : ∀ place, after.file? place = (before.file? place).map
    ((laidOutText job.language job.settings)^[done.countP (before.leads place)])
  faults_eq : after.faults = before.faults
  unlisted : ∀ place, done.countP (before.leads place) = 0 → after.file? place = before.file? place
  layout : ∀ place text, before.file? place = some text → done.countP (before.leads place) = 1 ∨
      done.countP (before.leads place) ≠ 0 ∧ laidOutText job.language job.settings
        (laidOutText job.language job.settings text) = laidOutText job.language job.settings text →
    after.file? place = some (laidOutText job.language job.settings text)

theorem StopsAt.of_laid {job : Job} {before after : Folder} {done : List String} {path : String}
    {failure : Failure}
    (hlaid : done.foldlM (layInPlace job.language job.settings) before = .ok after)
    (hfails : layInPlace job.language job.settings after path = .error failure) :
    StopsAt job before after done path where
  laid := hlaid
  fails := ⟨failure, hfails⟩
  file?_eq := file?_foldlM job.language job.settings hlaid
  faults_eq := faults_foldlM job.language job.settings hlaid
  unlisted := by
    intro place hnone
    rw [file?_foldlM job.language job.settings hlaid, hnone, Function.iterate_zero,
      Option.map_id_fun, id]
  layout := by
    intro place text htext htimes
    rw [file?_foldlM job.language job.settings hlaid, htext, Option.map_some]
    obtain hone | ⟨hmore, hstable⟩ := htimes
    · rw [hone, Function.iterate_one]
    · obtain ⟨times, htimes⟩ := Nat.exists_eq_succ_of_ne_zero hmore
      rw [htimes, Function.iterate_succ_apply, Function.iterate_fixed hstable]

/-! ## Rewriting -/

/-- Whether an action prints nothing and makes one folder of another, or fails and leaves the folder
as it is. -/
def Lays (folder : Folder) (action : Run Unit) (result : Except Failure Folder) : Prop :=
  ∀ session : Session, session.folder = folder → ∃ after : Session,
    action.run session = (result.map fun _ => (), after) ∧ after.output = session.output ∧
      after.folder = result.toOption.getD folder

namespace Lays

variable {folder : Folder}

theorem say (text : String) : Lays folder (Run.say text) (.ok folder) :=
  fun _ hfolder => ⟨_, rfl, rfl, hfolder⟩

theorem writeFile_say (path text message : String) :
    Lays folder (do Run.writeFile path text; Run.say message)
      ((folder.write path text).mapError (.unusable (placeOf path).path)) := by
  rintro session rfl
  rw [run_bind, Notes.run_writeFile]
  cases session.folder.write path text with
  | error fault => exact ⟨session, rfl, rfl, rfl⟩
  | ok laid => exact ⟨_, rfl, rfl, rfl⟩

theorem bind {action : Run α} {result : Except Failure α} {next : α → Run Unit}
    {final : α → Except Failure Folder} (haction : Answers folder action result)
    (hnext : ∀ a, Lays folder (next a) (final a)) :
    Lays folder (action >>= next) (result >>= final) := by
  intro session hfolder
  obtain ⟨errors, hrun⟩ := haction session hfolder
  rw [run_bind, hrun]
  cases result with
  | error failure => exact ⟨_, rfl, rfl, hfolder⟩
  | ok a => exact hnext a { session with errors := errors } hfolder

end Lays

section

variable (job : Job)

/-- Rewriting a file lays it out in place, and prints nothing. -/
theorem lays_replace {folder : Folder} {path : String} (hpath : path ≠ inputPath) :
    Lays folder (job.replace path) (layInPlace job.language job.settings folder path) := by
  refine .bind (answers_readSource hpath) fun source =>
    .bind (answers_layout job source) fun formatted => ?_
  split
  · exact .writeFile_say _ _ _
  · exact .say _

/-- Rewriting files prints nothing and lays them out in place one after the other, up to the first
that fails. -/
theorem forM_replace_error {paths : List String} (hpaths : inputPath ∉ paths)
    {session after : Session} {failure : Failure}
    (h : (paths.forM job.replace).run session = (.error failure, after)) :
    after.output = session.output ∧ ∃ done path rest, paths = done ++ path :: rest ∧
      done.foldlM (layInPlace job.language job.settings) session.folder = .ok after.folder ∧
      layInPlace job.language job.settings after.folder path = .error failure := by
  induction paths generalizing session with
  | nil => cases h
  | cons path rest ih =>
      obtain ⟨hpath, hrest⟩ := not_or.1 (mt List.mem_cons.2 hpaths)
      obtain ⟨middle, hrun, houtput, hfolder⟩ := lays_replace job (Ne.symm hpath) session rfl
      have hstep : ((path :: rest).forM job.replace).run session = _ :=
        run_bind (job.replace path) (fun _ => rest.forM job.replace) session
      rw [hstep, hrun] at h
      cases hresult : layInPlace job.language job.settings session.folder path with
      | error fault =>
          rw [hresult] at h hfolder
          obtain ⟨hfault, rfl⟩ := Prod.mk.inj h
          obtain rfl : fault = failure := Except.error.inj hfault
          have hsame : middle.folder = session.folder := hfolder
          exact ⟨houtput, [], path, rest, rfl, congrArg Except.ok hsame.symm, hsame.symm ▸ hresult⟩
      | ok laid =>
          rw [hresult] at h hfolder
          obtain ⟨hsame, done, failing, later, rfl, hdone, hfails⟩ := ih hrest h
          refine ⟨hsame.trans houtput, path :: done, failing, later, rfl, ?_, hfails⟩
          rw [List.foldlM_cons, hresult]
          exact (show middle.folder = laid from hfolder) ▸ hdone

end

/-! ## Outcomes -/

/-- Whether an action that does not fail gives the exit code zero. -/
def EndsWell (action : Run Nat) : Prop :=
  ∀ (session after : Session) (code : Nat), action.run session = (.ok code, after) → code = 0

theorem EndsWell.bind {action : Run α} {next : α → Run Nat} (h : ∀ a, EndsWell (next a)) :
    EndsWell (action >>= next) := by
  intro session after code hrun
  obtain ⟨a, middle, -, hnext⟩ := run_bind_eq_ok.1 hrun
  exact h a middle after code hnext

theorem endsWell_return : EndsWell (pure 0) :=
  fun _ _ _ hrun => (run_pure_eq_ok.1 hrun).1.symm

section

variable (env : List (String × String)) (paths : List String) (write : Bool)
  (output dialect : Option String)
  (strict : Option Bool) (verbose : Bool)

theorem endsWell_format :
    EndsWell (execute env (.format paths write output dialect strict verbose)) := by
  refine .bind fun session => .bind fun settings => ?_
  have hjob : EndsWell (do
      let job ← Run.ofExcept (jobOf settings verbose)
      if write then paths.forM job.replace else job.emit paths output
      return 0) := by
    refine .bind fun job => ?_
    split <;> exact .bind fun _ => endsWell_return
  dsimp only
  split
  · exact .bind fun _ => hjob
  · exact hjob

/-- Standard input cannot be rewritten, so nothing is. -/
theorem failsSilently_rewriteInput (h : inputPath ∈ paths) :
    FailsSilently (execute env (.format paths true output dialect strict verbose)) := by
  refine .get_bind fun session => .bind (.ofExcept _) fun settings => ?_
  have hinput : (true && paths.contains inputPath) = true := by simpa using h
  rw [if_pos hinput]
  exact .error_bind .writeToInput _

/-- A format that rewrites no files changes nothing when it fails. -/
theorem failsSilently_format :
    FailsSilently (execute env (.format paths false output dialect strict verbose)) := by
  refine .get_bind fun session => .bind (.ofExcept _) fun settings => .bind (.ofExcept _) fun job =>
    ?_
  exact (failsSilently_emit job paths output).bind_succeeds fun _ => succeeds_pure 0

theorem run_bind_eq_error {action : Run α} {next : α → Run β} {session after : Session}
    {failure : Failure} :
    (action >>= next).run session = (.error failure, after) ↔
      action.run session = (.error failure, after) ∨
      ∃ a middle, action.run session = (.ok a, middle) ∧
        (next a).run middle = (.error failure, after) := by
  rw [run_bind]
  obtain ⟨result, middle⟩ := action.run session
  cases result with
  | error fault =>
      constructor
      · intro h
        obtain ⟨hfault, rfl⟩ := Prod.mk.inj h
        exact .inl (by rw [Except.error.inj hfault])
      · rintro (h | ⟨_, _, hok, -⟩)
        · obtain ⟨hfault, rfl⟩ := Prod.mk.inj h
          rw [Except.error.inj hfault]
        · cases hok
  | ok a =>
      refine ⟨fun h => .inr ⟨a, middle, rfl, h⟩, ?_⟩
      rintro (h | ⟨found, other, hsame, hrun⟩)
      · cases h
      · obtain ⟨hfound, rfl⟩ := Prod.mk.inj hsame
        obtain rfl := Except.ok.inj hfound
        exact hrun

theorem run_ofExcept_eq_error {result : Except Failure α} {session after : Session}
    {failure : Failure} :
    (Run.ofExcept result).run session = (.error failure, after) ↔
      result = .error failure ∧ session = after :=
  Prod.mk.injEq _ _ _ _ ▸ Iff.rfl

/-- A rewriting that fails has no settings to format by, or stops at the first of the paths that
fails. -/
theorem rewrite_error (hpaths : inputPath ∉ paths) {session after : Session} {failure : Failure}
    (h : (execute env (.format paths true output dialect strict verbose)).run session =
      (.error failure, after)) :
    after.output = session.output ∧
      (after = session ∧ (∀ settings job, settingsOf env session.folder dialect strict =
        .ok settings →
          jobOf settings verbose ≠ .ok job) ∨
        ∃ settings job done path rest, settingsOf env session.folder dialect strict = .ok settings ∧
          jobOf settings verbose = .ok job ∧ paths = done ++ path :: rest ∧
          done.foldlM (layInPlace job.language job.settings) session.folder = .ok after.folder ∧
          layInPlace job.language job.settings after.folder path = .error failure) := by
  rw [execute_rewrite env hpaths] at h
  simp only [run_bind_eq_error, run_ofExcept_eq_error, run_ofExcept_eq_ok, run_get_eq_ok] at h
  obtain h | ⟨_, _, ⟨rfl, rfl⟩, ⟨hnone, rfl⟩ | ⟨settings, _, ⟨hsettings, rfl⟩, h⟩⟩ := h
  · cases h
  · exact ⟨rfl, .inl ⟨rfl, fun settings job hsettings => nomatch hnone.symm.trans hsettings⟩⟩
  obtain ⟨hnone, rfl⟩ | ⟨job, _, ⟨hjob, rfl⟩, h⟩ := h
  · refine ⟨rfl, .inl ⟨rfl, fun other job hother hjob => ?_⟩⟩
    obtain rfl := Except.ok.inj (hsettings.symm.trans hother)
    exact nomatch hnone.symm.trans hjob
  obtain h | ⟨_, _, -, h⟩ := h
  · obtain ⟨houtput, done, path, rest, hsplit, hdone, hfails⟩ := forM_replace_error job hpaths h
    exact ⟨houtput, .inr ⟨settings, job, done, path, rest, hsettings, hjob, hsplit, hdone, hfails⟩⟩
  · cases h

end

section

variable (surroundings : Surroundings)

/-- A format that exits with one has failed, and leaves behind what it had done until then. -/
theorem exists_failure {paths : List String} {write : Bool} {output dialect : Option String}
    {strict : Option Bool} {verbose : Bool}
    (h : (run surroundings (.format paths write output dialect strict verbose)).exitCode = 1) :
    ∃ failure after,
      (execute surroundings.env (.format paths write output dialect strict verbose)).run
        surroundings.start = (.error failure, after) ∧
      (run surroundings (.format paths write output dialect strict verbose)).folder = after.folder ∧
      (run surroundings (.format paths write output dialect strict verbose)).written =
        after.written ∧
      (run surroundings (.format paths write output dialect strict verbose)).output =
        after.output := by
  have hstart : surroundings.start =
      { folder := surroundings.folder, input := surroundings.input } := rfl
  have hwell := endsWell_format surroundings.env paths write output dialect strict verbose
    surroundings.start
  rw [run] at h ⊢
  rw [hstart] at hwell ⊢
  generalize (execute surroundings.env (.format paths write output dialect strict verbose)).run _ =
    ended at *
  obtain ⟨result, after⟩ := ended
  cases result with
  | error failure => exact ⟨failure, after, rfl, rfl, rfl, rfl⟩
  | ok code =>
      obtain rfl := hwell after code rfl
      cases h

/-- A format that exits with one has printed nothing.  Unless it rewrites files, it leaves all of
them as they are.  A rewriting leaves them as they are when it may not begin, and otherwise stops at
the first path that fails. -/
theorem failed_format_files {paths : List String} {write : Bool} {output dialect : Option String}
    {strict : Option Bool} {verbose : Bool}
    (h : (run surroundings (.format paths write output dialect strict verbose)).exitCode = 1) :
    let outcome := run surroundings (.format paths write output dialect strict verbose)
    outcome.output = "" ∧
    (write = false → outcome.folder = surroundings.folder ∧ outcome.written = []) ∧
    (write = true →
      outcome.folder = surroundings.folder ∧ outcome.written = [] ∧ (inputPath ∈ paths ∨
        ∀ settings job, settingsOf surroundings.env surroundings.folder dialect strict =
          .ok settings →
          jobOf settings verbose ≠ .ok job) ∨
      ∃ settings job done path rest,
        settingsOf surroundings.env surroundings.folder dialect strict = .ok settings ∧
        jobOf settings verbose = .ok job ∧ paths = done ++ path :: rest ∧
        StopsAt job surroundings.folder outcome.folder done path) := by
  obtain ⟨failure, after, hrun, hfolder, hwritten, houtput⟩ := exists_failure surroundings h
  dsimp only
  rw [hfolder, hwritten, houtput]
  cases write with
  | false =>
      have hsame := failsSilently_format surroundings.env paths output dialect strict verbose
        _ _ _ hrun
      exact ⟨hsame.output, fun _ => ⟨hsame.folder, hsame.written⟩, (fun h => nomatch h)⟩
  | true =>
      by_cases hpaths : inputPath ∈ paths
      · have hsame := failsSilently_rewriteInput surroundings.env paths output dialect strict
          verbose hpaths _ _ _ hrun
        exact ⟨hsame.output, (fun h => nomatch h),
          fun _ => .inl ⟨hsame.folder, hsame.written, .inl hpaths⟩⟩
      · obtain ⟨hprinted, hstops⟩ :=
          rewrite_error surroundings.env paths output dialect strict verbose hpaths hrun
        refine ⟨hprinted, (fun h => nomatch h), fun _ => hstops.imp ?_ ?_⟩
        · rintro ⟨rfl, hnone⟩
          exact ⟨rfl, rfl, .inr hnone⟩
        · rintro ⟨settings, job, done, path, rest, hsettings, hjob, hsplit, hdone, hfails⟩
          exact ⟨settings, job, done, path, rest, hsettings, hjob, hsplit, .of_laid hdone hfails⟩

end

/-- A file that is listed twice, one that has no layout, and one that is not reached. -/
theorem failed_format_files_stopped :
    let surroundings : Surroundings :=
      { folder := { files := [(["a.sql"], "select a"), (["b.sql"], "select ("),
                      (["c.sql"], "select c")] } }
    let paths := ["a.sql", "./a.sql", "b.sql", "c.sql"]
    (run surroundings (.format paths true none none none false)).exitCode = 1 ∧
    (run surroundings (.format paths true none none none false)).output = "" ∧
    (run surroundings (.format paths true none none none false)).folder.files =
      [(["a.sql"], "SELECT a\n;\n"), (["b.sql"], "select ("), (["c.sql"], "select c")] ∧
    ∃ job done path rest, paths = done ++ path :: rest ∧ StopsAt job surroundings.folder
      (run surroundings (.format paths true none none none false)).folder done path := by
  intro surroundings paths
  obtain ⟨hcode, hfiles⟩ : (run surroundings (.format paths true none none none false)).exitCode =
    1 ∧
      (run surroundings (.format paths true none none none false)).folder.files =
        [(["a.sql"], "SELECT a\n;\n"), (["b.sql"], "select ("), (["c.sql"], "select c")] := by
          decide +kernel
  obtain ⟨houtput, -, hwrite⟩ := failed_format_files surroundings hcode
  refine ⟨hcode, houtput, hfiles, ?_⟩
  obtain ⟨hsame, -⟩ | ⟨_, job, done, path, rest, -, -, hsplit, hstops⟩ := hwrite rfl
  · rw [hsame] at hfiles
    exact absurd hfiles (by decide)
  · exact ⟨job, done, path, rest, hsplit, hstops⟩

/-- A file that is listed twice before a missing one, and whose layout is not its own layout, does
not have its layout but the layout of that. -/
theorem failed_format_lays_out_twice :
    let surroundings : Surroundings := { folder := { files := [(["a.sql"], "select - -1\n")] } }
    let outcome := run surroundings (.format ["a.sql", "a.sql", "b.sql"] true none none none false)
    outcome.exitCode = 1 ∧ laidOutText {} {} "select - -1\n" = "SELECT --1\n;\n" ∧
      outcome.folder.file? ["a.sql"] = some "SELECT\n;\n" := by
  decide +kernel

end SqlLayout.Command
