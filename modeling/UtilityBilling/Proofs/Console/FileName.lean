/-
# The name under which a finished task's file is saved

The name comes from the path of the file's address, or, where this path names nothing, from the
task id. It is never empty, a dot or two, and a name from a path holds no slash. But nobody looks
for a backslash, nor for a slash in the task id, and the output directory refuses names with
either: such a file is fetched and then not saved, after all the work was done. A command that
follows a task fails for the name of its file in no other case.
-/

import UtilityBilling.Proofs.Console.Saving

namespace UtilityBilling.Task

open UtilityBilling.Files

/-- The file of a task has a name under which it can be saved. -/
def IsNameable (url taskId : String) : Prop :=
  match fileName? (pathOf url) with
  | some name => '\\' ∉ name.toList
  | none => '/' ∉ taskId.toList ∧ '\\' ∉ taskId.toList

theorem isPartName_of_fileName? {path name : String} (named : fileName? path = some name) :
    IsPartName name := by
  have last : .name name ∈ parts path := by
    rw [parts_eq_of_fileName? named]
    exact List.mem_append_right _ List.mem_cons_self
  exact isPlain_of_mem_parts last

/-- What stands for a part of a path is a file name, but for a backslash. -/
theorem isFileName_iff_of_isPartName {name : String} (isPartName : IsPartName name) :
    isFileName name = true ↔ '\\' ∉ name.toList := by
  obtain ⟨noSlash, stands⟩ := isPartName
  have plain : name ≠ "" ∧ name ≠ "." ∧ name ≠ ".." := by
    refine ⟨?_, ?_, ?_⟩ <;> (rintro rfl; cases stands)
  rw [← Bool.not_eq_false, isFileName_eq_false_iff]
  simp [plain, noSlash]

theorem toList_task (taskId : String) :
    ("task-" ++ taskId).toList = ['t', 'a', 's', 'k', '-'] ++ taskId.toList :=
  String.toList_append

theorem not_lt_length_task (taskId : String) : ¬("task-" ++ taskId).toList.length < 5 := by
  rw [toList_task, List.length_append]
  exact Nat.not_lt.mpr (Nat.le_add_right 5 _)

/-- A name made of a task id is a file name, but for slashes in the id. -/
theorem isFileName_task_iff (taskId : String) :
    isFileName ("task-" ++ taskId) = true ↔ '/' ∉ taskId.toList ∧ '\\' ∉ taskId.toList := by
  have other (name : String) (short : name.toList.length < 5) : "task-" ++ taskId ≠ name := by
    rintro rfl
    exact not_lt_length_task taskId short
  rw [← Bool.not_eq_false, isFileName_eq_false_iff, toList_task]
  simp [other "" (by decide), other "." (by decide), other ".." (by decide)]

/-- The name of a task's file can be given to a file exactly if the task is nameable. -/
theorem isFileName_downloadName_iff (url taskId : String) :
    isFileName (downloadName url taskId) = true ↔ IsNameable url taskId := by
  unfold downloadName IsNameable
  cases named : fileName? (pathOf url) with
  | some name => exact isFileName_iff_of_isPartName (isPartName_of_fileName? named)
  | none => exact isFileName_task_iff taskId

/-- The name of a task's file is never empty, a dot or two. -/
theorem downloadName_plain (url taskId : String) :
    downloadName url taskId ∉ ["", ".", ".."] := by
  have names : ∀ name ∈ ["", ".", ".."], ¬IsPartName name ∧ name.toList.length < 5 := by
    simp only [List.forall_mem_cons]
    refine ⟨⟨?_, by decide⟩, ⟨?_, by decide⟩, ⟨?_, by decide⟩, nofun⟩ <;> rintro ⟨_, ⟨⟩⟩
  intro member
  obtain ⟨noPart, short⟩ := names _ member
  unfold downloadName at noPart short
  cases named : fileName? (pathOf url) with
  | some name =>
      rw [named] at noPart
      exact noPart (isPartName_of_fileName? named)
  | none =>
      rw [named] at short
      exact absurd short (not_lt_length_task taskId)

instance (url taskId : String) : Decidable (IsNameable url taskId) :=
  decidable_of_iff _ (isFileName_downloadName_iff url taskId)

end UtilityBilling.Task

namespace UtilityBilling.Api

open UtilityBilling.Files
open UtilityBilling.Url (Address)

/-- Two texts that start differently are told apart, whatever follows. -/
theorem append_ne_append {one other : String} (long : 2 ≤ one.toList.length)
    (otherLong : 2 ≤ other.toList.length)
    (differ : one.toList.take 2 ≠ other.toList.take 2) (rest more : String) :
    one ++ rest ≠ other ++ more := by
  intro same
  apply differ
  have heads := congrArg (fun text : String => text.toList.take 2) same
  simpa only [String.toList_append, List.take_append_of_le_length long,
    List.take_append_of_le_length otherLong] using heads

/-- A name that is refused is told from every other failure to write a file. -/
theorem storageError_eq_fileName {error : OutputError} {given : String}
    (same : storageError error = storageError (.fileName given)) :
    ∃ own, error = .fileName own := by
  cases error with
  | fileName own => exact ⟨own, rfl⟩
  | directory fault =>
      exact absurd (Error.mk.inj same).2
        (append_ne_append (by decide) (by decide) (by decide) _ _)
  | system error =>
      exact absurd (Error.mk.inj same).2
        (append_ne_append (by decide) (by decide) (by decide) _ _)

variable {settings : Settings} {line : Line} {state after : State} {volume : Volume}
  {link directory name given : String} {answer : Answer}

/-- What fails on the line is no failure to write a file. -/
theorem kind_receive {url : Address} {reply : Reply} {error : Error}
    (failed : receive settings state url reply = (.error error, after)) :
    error.kind ≠ .storage := by
  unfold receive at failed
  split at failed
  case h_1 failure =>
    cases failed
    cases failure <;> simp [Failure.error, tookTooLong]
  case h_2 answer =>
    split at failed
    · cases failed
      simp [sessionExpired]
    split at failed
    · cases failed
    · cases failed
      unfold Answer.rejection Error.asRejection errorOfBody kindOf
      grind

/-- A file that is not given its name is not refused for it. -/
theorem exists_of_commit {file : PendingFile} {error : OutputError} {made : Volume}
    (failed : file.commit volume = (.error error, made)) : ∃ cause, error = .system cause := by
  unfold PendingFile.commit at failed
  split at failed
  case h_1 cause _ =>
    cases failed
    exact ⟨cause, rfl⟩
  case h_2 =>
    split at failed
    case h_1 => cases failed
    case h_2 cause _ _ =>
      cases failed
      exact ⟨cause, rfl⟩

/-- Saving a body fails for its name exactly if the name is no file name. -/
theorem saveBody_refuses_iff (volume : Volume) (directory : String) (name : String)
    (answer : Answer) :
    (∃ given, (saveBody volume directory name answer).1 =
      .error (storageError (.fileName given))) ↔ isFileName name = false := by
  constructor
  · rintro ⟨given, failed⟩
    unfold saveBody at failed
    cases begun : beginFile volume directory name with
    | mk result opened =>
        rw [begun] at failed
        cases result with
        | error error =>
            obtain ⟨own, rfl⟩ := storageError_eq_fileName (Except.error.inj failed)
            exact (beginFile_eq_fileName_iff.mp ⟨_, begun⟩).2
        | ok file =>
            exfalso
            dsimp only at failed
            rcases file.appendAll_cases opened answer.chunks with
              ⟨_, appended⟩ | ⟨_, cause, _, stuck⟩
            case inr =>
              simp only [stuck] at failed
              obtain ⟨own, ⟨⟩⟩ := storageError_eq_fileName (Except.error.inj failed)
            case inl =>
              simp only [appended] at failed
              split at failed
              case h_1 cut _ =>
                have kind := congrArg Error.kind (Except.error.inj failed)
                cases cut <;> cases kind
              case h_2 =>
                split at failed
                case h_1 => cases failed
                case h_2 error _ committed =>
                  obtain ⟨own, rfl⟩ := storageError_eq_fileName (Except.error.inj failed)
                  obtain ⟨cause, ⟨⟩⟩ := exists_of_commit committed
  · intro noName
    exact ⟨name, by rw [saveBody, beginFile_of_noName volume directory noName]⟩

/-- A download fails for its name only if the name is no file name. -/
theorem download_refuses
    (failed : (download settings line state link directory name).1 =
      .error (storageError (.fileName given))) : isFileName name = false := by
  unfold download at failed
  split at failed
  case h_1 error unresolved =>
    have kind := congrArg Error.kind (Except.error.inj failed)
    unfold Settings.resolveLink at unresolved
    split at unresolved
    · cases unresolved
    · cases unresolved
      cases kind
  case h_2 url resolves =>
    split at failed
    case h_1 error after sent =>
      have kind := congrArg Error.kind (Except.error.inj failed)
      exact absurd kind (kind_receive sent)
    case h_2 answer after sent => exact (saveBody_refuses_iff _ _ _ _).mp ⟨given, failed⟩

end UtilityBilling.Api

namespace UtilityBilling.Console

open UtilityBilling.Files
open UtilityBilling.Task (IsNameable downloadName isFileName_downloadName_iff)

/-- A command fails because the name of the file that it saves is no file name. -/
def RefusesName (result : CommandResult) : Prop :=
  ∃ given, result = .error (.download (Api.storageError (.fileName given)))

variable {client : Client} {link directory name : String}

theorem not_refusesName_ok : ¬RefusesName (.ok ()) := by
  rintro ⟨_, ⟨⟩⟩

/-- Saving a file is refused only for a name that is none. -/
theorem isFileName_of_refusesName (refuses : RefusesName (client.save link directory name).1) :
    isFileName name = false := by
  obtain ⟨given, failed⟩ := refuses
  unfold Client.save at failed
  split at failed
  case h_1 => cases failed
  case h_2 volume _ =>
    dsimp only at failed
    split at failed
    case h_1 => cases failed
    case h_2 error after downloaded =>
      have refused : error = Api.storageError (.fileName given) := by
        cases failed
        rfl
      exact Api.download_refuses (by rw [downloaded, refused])

/-- Where the directory can be had and the file is fetched, its name alone decides whether saving
it is refused for the name. -/
theorem refusesName_save_iff {made : Volume} {url : Url.Address} {answer : Api.Answer}
    {after : Api.State}
    (ensured : ensureDirectory client.state.volume directory = (.ok (), made))
    (resolves : client.settings.resolveLink link = .ok url)
    (sent : Api.send client.settings client.line { client.state with volume := made }
      (.getFile url) = (.ok answer, after)) :
    RefusesName (client.save link directory name).1 ↔ isFileName name = false := by
  refine ⟨isFileName_of_refusesName, fun noName => ?_⟩
  obtain ⟨given, failed⟩ := (Api.saveBody_refuses_iff after.volume directory name answer).mpr noName
  refine ⟨given, ?_⟩
  unfold Client.save
  rw [ensured]
  dsimp only
  rw [Api.download_of_sent resolves sent, failed]

/-- Showing what a finished task hands back is refused only if its file has no name. -/
theorem not_isNameable_of_finish {outcome : Task.Outcome} {options : PollOptions}
    (refuses : RefusesName (client.finish outcome options).1) :
    ∃ link, outcome.downloadUrl = some link ∧ ¬IsNameable link outcome.taskId := by
  unfold Client.finish at refuses
  dsimp only at refuses
  split at refuses
  case h_1 => exact absurd refuses not_refusesName_ok
  case h_2 => exact absurd refuses not_refusesName_ok
  case h_3 link directory isLink _ =>
    refine ⟨link, isLink, ?_⟩
    rw [← isFileName_downloadName_iff, Bool.not_eq_true]
    exact isFileName_of_refusesName refuses

/-- Following a task is refused only if it has finished and its file has no name. -/
theorem not_isNameable_of_task {taskId : String} {options : PollOptions}
    (refuses : RefusesName (client.task taskId options).1) :
    ∃ outcome link, (client.follow taskId options).1 = .ok outcome ∧
      outcome.downloadUrl = some link ∧ ¬IsNameable link outcome.taskId := by
  unfold Client.task at refuses
  split at refuses
  case h_1 outcome after followed =>
    obtain ⟨link, isLink, unnamed⟩ := not_isNameable_of_finish refuses
    exact ⟨outcome, link, by rw [followed], isLink, unnamed⟩
  case h_2 => exact absurd refuses (by rintro ⟨_, ⟨⟩⟩)

/-- The same holds where the task is started first. -/
theorem not_isNameable_of_run {endpoint : String} {parameters : List (String × String)}
    {options : PollOptions} (refuses : RefusesName (client.run endpoint parameters options).1) :
    ∃ (started : Client) (taskId : String) (outcome : Task.Outcome) (link : String),
      (started.follow taskId options).1 = .ok outcome ∧ outcome.downloadUrl = some link ∧
        ¬IsNameable link outcome.taskId := by
  unfold Client.run at refuses
  dsimp only at refuses
  split at refuses
  case h_1 => exact absurd refuses (by rintro ⟨_, ⟨⟩⟩)
  case h_2 answer after _ =>
    split at refuses
    case h_1 => exact absurd refuses (by rintro ⟨_, ⟨⟩⟩)
    case h_2 taskId _ => exact ⟨_, taskId, not_isNameable_of_task refuses⟩

/-- A file that was fetched for a finished task is refused for its name exactly if it has none. -/
theorem refusesName_finish_iff {outcome : Task.Outcome} {options : PollOptions} {made : Volume}
    {url : Url.Address} {answer : Api.Answer} {after : Api.State}
    (isLink : outcome.downloadUrl = some link)
    (isDirectory : options.downloadDirectory = some directory)
    (ensured : ensureDirectory client.state.volume directory = (.ok (), made))
    (resolves : client.settings.resolveLink link = .ok url)
    (sent : Api.send client.settings client.line { client.state with volume := made }
      (.getFile url) = (.ok answer, after)) :
    RefusesName (client.finish outcome options).1 ↔ ¬IsNameable link outcome.taskId := by
  rw [← isFileName_downloadName_iff, Bool.not_eq_true]
  unfold Client.finish
  rw [isLink, isDirectory]
  cases outcome.result with
  | none => exact refusesName_save_iff ensured resolves sent
  | some value => exact refusesName_save_iff ensured resolves sent

/-- The name of a finished task's file. For every address and every task id the chosen name is
never empty, a dot or two, and it is accepted exactly if the last name in the address's path holds
no backslash, or, where the path names nothing, the task id holds no slash of either kind. A
command that follows a task, whether or not it starts it, is refused for a file name in no other
case, and only when the task has finished; and when the file of such a task has been fetched, it
is always refused. -/
theorem finished_file_name (client : Client) (options : PollOptions) :
    (∀ link taskId, downloadName link taskId ∉ ["", ".", ".."] ∧
        (isFileName (downloadName link taskId) = true ↔ IsNameable link taskId)) ∧
      (∀ taskId, RefusesName (client.task taskId options).1 →
        ∃ outcome link, (client.follow taskId options).1 = .ok outcome ∧
          outcome.downloadUrl = some link ∧ ¬IsNameable link outcome.taskId) ∧
      (∀ endpoint parameters, RefusesName (client.run endpoint parameters options).1 →
        ∃ (started : Client) (taskId : String) (outcome : Task.Outcome) (link : String),
          (started.follow taskId options).1 = .ok outcome ∧ outcome.downloadUrl = some link ∧
            ¬IsNameable link outcome.taskId) ∧
      ∀ outcome link directory made url answer after, outcome.downloadUrl = some link →
        options.downloadDirectory = some directory →
        ensureDirectory client.state.volume directory = (.ok (), made) →
        client.settings.resolveLink link = .ok url →
        Api.send client.settings client.line { client.state with volume := made } (.getFile url) =
          (.ok answer, after) →
        (RefusesName (client.finish outcome options).1 ↔ ¬IsNameable link outcome.taskId) :=
  ⟨fun link taskId =>
      ⟨Task.downloadName_plain link taskId, isFileName_downloadName_iff link taskId⟩,
    fun _ => not_isNameable_of_task, fun _ _ => not_isNameable_of_run,
    fun _ _ _ _ _ _ _ => refusesName_finish_iff⟩

/-- A file whose address ends in a name is saved under it; a file whose address ends in two names
with a backslash between them is fetched, and refused. -/
theorem finished_file_name_backslash :
    let client := BrokenOff.client
    let finish (link : String) := (client.finish ⟨"7", none, some link⟩ BrokenOff.options).1
    ¬RefusesName (finish "http://backend.example/05.csv") ∧
      downloadName "http://backend.example/2024\\05.csv" "7" = "2024\\05.csv" ∧
      RefusesName (finish "http://backend.example/2024\\05.csv") := by
  intro client finish
  obtain ⟨_, _, _, exact⟩ := finished_file_name client BrokenOff.options
  refine ⟨?_, by decide, ?_⟩
  · rw [exact _ _ "out" _ _ _ _ rfl rfl rfl rfl rfl]
    decide
  · rw [exact _ _ "out" _ _ _ _ rfl rfl rfl rfl rfl]
    decide

/-- Neither a name with a backslash nor a task id with a slash makes a file name. -/
theorem chosen_name_not_accepted :
    downloadName "/files/2024\\05.csv" "7" = "2024\\05.csv" ∧
      isFileName (downloadName "/files/2024\\05.csv" "7") = false ∧
      downloadName "/files/.." "7/2024" = "task-7/2024" ∧
      isFileName (downloadName "/files/.." "7/2024") = false := by
  decide

end UtilityBilling.Console
