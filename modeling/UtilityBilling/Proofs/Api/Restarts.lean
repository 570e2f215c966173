/-
# Restarts go unnoticed

A credential store with a session file does what a store in memory does, although it is opened
anew again and again and only the file stays in between. As long as the operations on the file
go well, opening it gives the very store that was there before: the one that a store in memory
would still be. A store that is opened for another backend meanwhile shows nothing.
-/

import UtilityBilling.Proofs.Api.SessionFile
import UtilityBilling.Proofs.Session.Writing

namespace UtilityBilling.Api

open UtilityBilling.Files
open UtilityBilling.Session
open UtilityBilling.Text (bytesOf)

/-- What is done with the credential store of a backend. -/
inductive Use where
  | store (token : String) (now : Instant)
  | clear
  /-- The store is given up and opened anew for the same backend. -/
  | reopen
  /-- Beside the store, another one is opened with the same file. -/
  | openOther (baseUrl : String)
  deriving DecidableEq, Repr

/-- The clock shows the time at which a token is stored. -/
def Use.Clocked : Use → Prop
  | .store _ now => now.IsClockTime
  | _ => True

/-- Whether a use replaces what is in the file. -/
def Use.Settles : Use → Prop
  | .store _ _ | .clear => True
  | .reopen | .openOther _ => False

/-- A credential store and the files. -/
structure Holding where
  credentials : CredentialStore
  volume : Volume
  deriving DecidableEq, Repr

namespace Holding

/-- What a use leaves. A store in memory is never opened anew. -/
def step (holding : Holding) : Use → Holding
  | .store token now =>
    let (stored, written, _) := holding.credentials.put holding.volume now token
    ⟨stored, written⟩
  | .clear =>
    let (cleared, after, _) := holding.credentials.clear holding.volume
    ⟨cleared, after⟩
  | .reopen =>
    match holding.credentials with
    | .memory token => ⟨.memory token, holding.volume⟩
    | .file store =>
      ⟨.file (FileStore.load holding.volume store.path store.baseUrl).1, holding.volume⟩
  | .openOther _ => holding

/-- What uses leave, one after the other. -/
def run (holding : Holding) (uses : List Use) : Holding :=
  uses.foldl step holding

/-- The token after each of the uses. -/
def tokens (holding : Holding) : List Use → List (Option String)
  | [] => []
  | use :: uses => (holding.step use).credentials.token :: (holding.step use).tokens uses

end Holding

section Files

variable (path name baseUrl : String)

/-- Whether the operations of a use on the session file go well. -/
def Use.goesWell (volume : Volume) : Use → Bool
  | .store token now =>
    (writeFile volume (directoryOf path) name
      (bytesOf (Stored.text ⟨baseUrl, token, now⟩))).1.isOk
  | .clear => wentWell (volume.removeFile path).1
  | .reopen => wentWell (volume.readText path)
  | .openOther _ => true

/-- Whether all operations on the session file go well, use by use. -/
def Holding.goesWell (holding : Holding) : List Use → Bool
  | [] => true
  | use :: uses =>
    use.goesWell path name baseUrl holding.volume && (holding.step use).goesWell uses

/-- A store is what opening its file would give, if the file can be read. -/
structure Holding.Kept (holding : Holding) : Prop where
  numbered : holding.volume.Numbered
  store : ∃ session, holding.credentials = .file ⟨path, baseUrl, session⟩
  fresh : wentWell (holding.volume.readText path) = true →
    holding.credentials = .file (FileStore.load holding.volume path baseUrl).1

end Files

namespace Holding

variable {path name baseUrl : String} {holding : Holding} {use : Use}

/-- A token that is stored is in the store, and in the file unless that cannot be read. -/
theorem step_store {token : String} {now : Instant} (kept : holding.Kept path baseUrl)
    (named : fileName? path = some name) (clock : now.IsClockTime)
    (well : (Use.store token now).goesWell path name baseUrl holding.volume = true) :
    let session : Stored := ⟨baseUrl, token, now⟩
    ∃ written, holding.step (.store token now) = ⟨.file ⟨path, baseUrl, some session⟩, written⟩ ∧
      written.Numbered ∧
      ((readStored written path).1 = some session ∨
        ((readStored written path).1 = none ∧ wentWell (written.readText path) = false)) := by
  intro session
  obtain ⟨held, isFile⟩ := kept.store
  have succeeded : (writeFile holding.volume (directoryOf path) name
      (bytesOf session.text)).1.isOk = true := well
  cases wrote : writeFile holding.volume (directoryOf path) name (bytesOf session.text) with
  | mk result written =>
      cases result with
      | error error =>
          rw [wrote] at succeeded
          cases succeeded
      | ok target =>
          have volume := volume_writeStored named wrote
          have numbered := numbered_writeFile kept.numbered (directoryOf path) name
            (bytesOf session.text)
          rw [wrote] at numbered
          refine ⟨written, ?_, numbered,
            readStored_of_writeFile clock named kept.numbered wrote⟩
          simp only [step, isFile, CredentialStore.put, FileStore.put]
          rw [← volume]

/-- After clearing there is no session, neither in the store nor in the file. -/
theorem step_clear (kept : holding.Kept path baseUrl)
    (well : Use.clear.goesWell path name baseUrl holding.volume = true) :
    ∃ after, holding.step .clear = ⟨.file ⟨path, baseUrl, none⟩, after⟩ ∧ after.Numbered ∧
      (readStored after path).1 = none := by
  obtain ⟨held, isFile⟩ := kept.store
  have ended := CredentialStore.fst_clear_file ⟨path, baseUrl, held⟩ holding.volume
  have removed := CredentialStore.volume_clear_file ⟨path, baseUrl, held⟩ holding.volume
  have spares := CredentialStore.spares_clear (.file ⟨path, baseUrl, held⟩) holding.volume
  rw [removed] at spares
  refine ⟨(holding.volume.removeFile path).2, ?_, spares.numbered kept.numbered,
    readStored_of_removeFile well⟩
  rw [step, isFile]
  dsimp only
  rw [ended, removed]

/-- Opening the file anew changes nothing. -/
theorem step_reopen (kept : holding.Kept path baseUrl)
    (well : Use.reopen.goesWell path name baseUrl holding.volume = true) :
    holding.step .reopen = holding := by
  obtain ⟨session, isFile⟩ := kept.store
  have fresh := kept.fresh well
  rw [isFile] at fresh
  obtain ⟨credentials, volume⟩ := holding
  obtain rfl : credentials = .file ⟨path, baseUrl, session⟩ := isFile
  rw [step]
  dsimp only at fresh ⊢
  rw [← fresh]

/-- After every use a store is what opening its file would give. -/
theorem Kept.step (kept : holding.Kept path baseUrl) (named : fileName? path = some name)
    (clocked : use.Clocked) (well : use.goesWell path name baseUrl holding.volume = true) :
    (holding.step use).Kept path baseUrl := by
  cases use with
  | store token now =>
      obtain ⟨written, stored, numbered, file⟩ := step_store kept named clocked well
      rw [stored]
      refine ⟨numbered, ⟨_, rfl⟩, fun readable => ?_⟩
      rcases file with read | ⟨_, unreadable⟩
      · exact congrArg CredentialStore.file (load_of_readStored read).symm
      · rw [readable] at unreadable
        cases unreadable
  | clear =>
      obtain ⟨after, cleared, numbered, nothing⟩ := step_clear kept well
      rw [cleared]
      refine ⟨numbered, ⟨_, rfl⟩, fun _ => ?_⟩
      exact congrArg CredentialStore.file (load_of_nothing nothing baseUrl).symm
  | reopen => rw [step_reopen kept well]; exact kept
  | openOther other => exact kept

/-- A use does to the store in the file what it does to one in memory. -/
theorem step_memory (kept : holding.Kept path baseUrl) (named : fileName? path = some name)
    (clocked : use.Clocked) (well : use.goesWell path name baseUrl holding.volume = true)
    (volume : Volume) :
    (⟨.memory holding.credentials.token, volume⟩ : Holding).step use =
      ⟨.memory (holding.step use).credentials.token, volume⟩ := by
  cases use with
  | store token now =>
      obtain ⟨written, stored, _⟩ := step_store kept named clocked well
      rw [stored]
      rfl
  | clear =>
      obtain ⟨after, cleared, _⟩ := step_clear kept well
      rw [cleared]
      rfl
  | reopen => rw [step_reopen kept well]; rfl
  | openOther other => rfl

/-- A use keeps another backend from seeing a session, if it did not see one before or if the
use replaces what is in the file. -/
theorem hidden_step {other : String} (kept : holding.Kept path baseUrl)
    (named : fileName? path = some name) (clocked : use.Clocked)
    (well : use.goesWell path name baseUrl holding.volume = true) (apart : other ≠ baseUrl)
    (hidden : (FileStore.load holding.volume path other).1.token = none ∨ use.Settles) :
    (FileStore.load (holding.step use).volume path other).1.token = none := by
  cases use with
  | store token now =>
      obtain ⟨written, stored, _, file⟩ := step_store kept named clocked well
      rw [stored]
      rcases file with read | ⟨nothing, _⟩
      · apply token_load_of_other apart
        rw [load_of_readStored read]
        rfl
      · rw [load_of_nothing nothing]
        rfl
  | clear =>
      obtain ⟨after, cleared, _, nothing⟩ := step_clear kept well
      rw [cleared, load_of_nothing nothing]
      rfl
  | reopen =>
      rw [step_reopen kept well]
      exact hidden.resolve_right id
  | openOther _ => exact hidden.resolve_right id

variable {uses before after : List Use}

theorem goesWell_append :
    holding.goesWell path name baseUrl (before ++ after) =
      (holding.goesWell path name baseUrl before &&
        (holding.run before).goesWell path name baseUrl after) := by
  induction before generalizing holding with
  | nil => rfl
  | cons use before ih =>
      rw [List.cons_append, goesWell, ih, goesWell, Bool.and_assoc]
      rfl

theorem run_append : holding.run (before ++ after) = (holding.run before).run after :=
  List.foldl_append

/-- In every run a store is what opening its file would give. -/
theorem Kept.run (kept : holding.Kept path baseUrl) (named : fileName? path = some name)
    (clocked : ∀ use ∈ uses, use.Clocked)
    (well : holding.goesWell path name baseUrl uses = true) :
    (holding.run uses).Kept path baseUrl := by
  induction uses generalizing holding with
  | nil => exact kept
  | cons use uses ih =>
      rw [goesWell, Bool.and_eq_true] at well
      rw [List.forall_mem_cons] at clocked
      exact ih (kept.step named clocked.1 well.1) clocked.2 well.2

/-- Before each use of a run the store is what opening its file would give, and the use goes
well. -/
theorem Kept.before_use (kept : holding.Kept path baseUrl) (named : fileName? path = some name)
    (clocked : ∀ other ∈ before ++ use :: after, other.Clocked)
    (well : holding.goesWell path name baseUrl (before ++ use :: after) = true) :
    (holding.run before).Kept path baseUrl ∧ use.Clocked ∧
      use.goesWell path name baseUrl (holding.run before).volume = true := by
  rw [goesWell_append, goesWell, Bool.and_eq_true, Bool.and_eq_true] at well
  rw [List.forall_mem_append, List.forall_mem_cons] at clocked
  exact ⟨kept.run named clocked.1 well.1, clocked.2.1, well.2.1⟩

/-- Opening the file anew in the course of a run changes nothing. -/
theorem run_reopen (kept : holding.Kept path baseUrl) (named : fileName? path = some name)
    (clocked : ∀ other ∈ before ++ .reopen :: after, other.Clocked)
    (well : holding.goesWell path name baseUrl (before ++ .reopen :: after) = true) :
    holding.run (before ++ [.reopen]) = holding.run before := by
  obtain ⟨keptBefore, _, wellBefore⟩ := kept.before_use named clocked well
  exact run_append.trans (step_reopen keptBefore wellBefore)

/-- A token that is stored in the course of a run is in the store with its time. -/
theorem credentials_run_store {token : String} {now : Instant} (kept : holding.Kept path baseUrl)
    (named : fileName? path = some name)
    (clocked : ∀ other ∈ before ++ .store token now :: after, other.Clocked)
    (well : holding.goesWell path name baseUrl (before ++ .store token now :: after) = true) :
    (holding.run (before ++ [.store token now])).credentials =
      .file ⟨path, baseUrl, some ⟨baseUrl, token, now⟩⟩ := by
  obtain ⟨keptBefore, clock, wellBefore⟩ := kept.before_use named clocked well
  obtain ⟨written, stored, _⟩ := step_store keptBefore named clock wellBefore
  rw [run_append]
  exact congrArg Holding.credentials stored

/-- In every run the tokens are those of a store in memory. -/
theorem tokens_memory (kept : holding.Kept path baseUrl) (named : fileName? path = some name)
    (clocked : ∀ use ∈ uses, use.Clocked)
    (well : holding.goesWell path name baseUrl uses = true) (volume : Volume) :
    holding.tokens uses = (⟨.memory holding.credentials.token, volume⟩ : Holding).tokens uses := by
  induction uses generalizing holding with
  | nil => rfl
  | cons use uses ih =>
      rw [goesWell, Bool.and_eq_true] at well
      rw [List.forall_mem_cons] at clocked
      have rest := ih (kept.step named clocked.1 well.1) clocked.2 well.2
      rw [tokens, tokens, step_memory kept named clocked.1 well.1 volume, rest]
      rfl

/-- In every run another backend sees no session, from the first use on that replaces what is
in the file. -/
theorem hidden_run {other : String} (kept : holding.Kept path baseUrl)
    (named : fileName? path = some name) (clocked : ∀ use ∈ uses, use.Clocked)
    (well : holding.goesWell path name baseUrl uses = true) (apart : other ≠ baseUrl)
    (hidden : (FileStore.load holding.volume path other).1.token = none ∨
      ∃ use ∈ uses, use.Settles) :
    (FileStore.load (holding.run uses).volume path other).1.token = none := by
  induction uses generalizing holding with
  | nil => exact hidden.resolve_right nofun
  | cons use uses ih =>
      rw [goesWell, Bool.and_eq_true] at well
      rw [List.forall_mem_cons] at clocked
      apply ih (kept.step named clocked.1 well.1) clocked.2 well.2
      simp only [List.mem_cons, exists_eq_or_imp] at hidden
      rcases hidden with before | now | later
      · exact .inl (hidden_step kept named clocked.1 well.1 apart (.inl before))
      · exact .inl (hidden_step kept named clocked.1 well.1 apart (.inr now))
      · exact .inr later

/-- The store that is opened with a file. -/
def opened (volume : Volume) (path baseUrl : String) : Holding :=
  ⟨.file (FileStore.load volume path baseUrl).1, volume⟩

end Holding

open Holding

/-- A credential store with a file does what one in memory does. Whatever tokens are stored
and cleared, and however often the file is opened anew in between, the tokens after all uses are
those of a store in memory that starts with the same token. Opening the file anew gives the very
store that was there, with the token as it was stored and the time of storing it. A store opened
for another backend has no token, unless the file held that backend's session at first and
nothing has been stored or cleared yet. All this is for operations on the file that go well and
for the times that the clock can show. -/
theorem file_store_refines_memory_store (volume : Volume) (numbered : volume.Numbered)
    (path name baseUrl : String) (named : fileName? path = some name) (uses : List Use)
    (clocked : ∀ use ∈ uses, use.Clocked)
    (well : (opened volume path baseUrl).goesWell path name baseUrl uses = true) :
    let inFile := opened volume path baseUrl
    let inMemory : Holding := ⟨.memory inFile.credentials.token, volume⟩
    inFile.tokens uses = inMemory.tokens uses ∧
      (∀ before after, uses = before ++ .reopen :: after →
        inFile.run (before ++ [.reopen]) = inFile.run before) ∧
      (∀ before token now after, uses = before ++ .store token now :: .reopen :: after →
        let reopened := (inFile.run (before ++ [.store token now, .reopen])).credentials
        reopened.token = some token ∧ reopened.savedAt = some now) ∧
      (∀ before other after, uses = before ++ .openOther other :: after → other ≠ baseUrl →
        (FileStore.load volume path other).1.token = none ∨ (∃ use ∈ before, use.Settles) →
        (FileStore.load (inFile.run before).volume path other).1.token = none) := by
  intro inFile inMemory
  have kept : inFile.Kept path baseUrl := ⟨numbered, ⟨_, rfl⟩, fun _ => rfl⟩
  refine ⟨tokens_memory kept named clocked well volume, ?_, ?_, ?_⟩
  · rintro before after rfl
    exact run_reopen kept named clocked well
  · rintro before token now after rfl
    have stored := credentials_run_store kept named clocked well
    have again : inFile.run (before ++ [.store token now, .reopen]) =
        inFile.run (before ++ [.store token now]) := by
      rw [← List.singleton_append, ← List.append_assoc] at clocked well
      rw [← run_reopen kept named clocked well, List.append_assoc]
      rfl
    rw [again, stored]
    exact ⟨rfl, rfl⟩
  · rintro before other after rfl apart hidden
    rw [goesWell_append, Bool.and_eq_true] at well
    rw [List.forall_mem_append] at clocked
    exact hidden_run kept named clocked.1 well.1 apart hidden

namespace OddToken

/-- A letter, quotes, a backslash, a line end, and a combining accent. -/
def token : String := "a\"'\\\n\u0301"

def here : String := "http://b.example/api"

def elsewhere : String := "http://a.example/api"

def now : Instant := ⟨1700000000, 123456000⟩

/-- The token is stored, the file is opened anew and for another backend, and at last the
session is ended. -/
def uses : List Use :=
  [.store token now, .reopen, .openOther elsewhere, .clear, .reopen]

def start : Holding := .opened {} "session.ron" here

theorem goesWell : start.goesWell "session.ron" "session.ron" here uses = true := by
  decide +kernel

end OddToken

/-- Odd characters and all, a token comes back from its file, and only for its own backend. -/
theorem file_store_refines_memory_store_odd_token :
    let reopened := OddToken.start.run [.store OddToken.token OddToken.now, .reopen]
    fileName? "session.ron" = some "session.ron" ∧
      (∀ use ∈ OddToken.uses, use.Clocked) ∧
      OddToken.start.goesWell "session.ron" "session.ron" OddToken.here OddToken.uses = true ∧
      OddToken.start.tokens OddToken.uses =
        [some OddToken.token, some OddToken.token, some OddToken.token, none, none] ∧
      reopened.credentials.token = some OddToken.token ∧
      reopened.credentials.savedAt = some OddToken.now ∧
      (FileStore.load reopened.volume "session.ron" OddToken.elsewhere).1.token = none := by
  have named : fileName? "session.ron" = some "session.ron" := by decide +kernel
  have clocked : ∀ use ∈ OddToken.uses, use.Clocked := by
    simp only [OddToken.uses, List.mem_cons, List.not_mem_nil, or_false]
    rintro use (rfl | rfl | rfl | rfl | rfl)
    · exact ⟨by decide, by decide, by decide⟩
    all_goals trivial
  obtain ⟨tokens, _, reopens, hidden⟩ := file_store_refines_memory_store {} nofun "session.ron"
    "session.ron" OddToken.here named OddToken.uses clocked OddToken.goesWell
  obtain ⟨same, stamped⟩ := reopens [] OddToken.token OddToken.now _ rfl
  refine ⟨named, clocked, OddToken.goesWell, tokens, same, stamped, ?_⟩
  exact hidden [.store OddToken.token OddToken.now, .reopen] OddToken.elsewhere _ rfl (by decide)
    (.inr ⟨_, List.mem_cons_self, trivial⟩)

end UtilityBilling.Api
