import LinkedKeys.Proofs.Store.Filed
import Mathlib.Data.List.Basic

namespace LinkedKeys.Control

open Account Script Store.Directory
open Files (Tree)
open Files.Tree (Keeps Grows longestName)

variable {here : List String} {dir username keys : String} {name? keys? : Option String}
  {t ready after : Tree} {place : List String} {outcome : Outcome} {alert : Alert}

theorem username_plain : isPlain usernameKey = true := by decide

theorem keys_plain : isPlain keysKey = true := by decide

theorem username_short : usernameKey.utf8ByteSize ≤ longestName := by decide

theorem keys_short : keysKey.utf8ByteSize ≤ longestName := by decide

theorem places_differ (place : List String) : place ++ [keysKey] ≠ place ++ [usernameKey] := by
  simp [keysKey, usernameKey]

-- The account that the files of a directory hold, or why that cannot be said.
def accountIn (here : List String) (dir : String) (t : Tree) : Except Failure (Option Account) :=
  (stored.run.run (serve here dir) t).1

theorem read_serve (key : String) (plain : isPlain key = true) :
    (Store.get key).run.run (serve here dir) t = ((serve here dir (.get key) t).1, t) :=
  serve_get plain

theorem stored_serve : stored.run.run (serve here dir) t = (accountIn here dir t, t) := by
  refine Prod.ext rfl ?_
  rw [stored, run_then, read_serve keysKey keys_plain]
  cases (serve here dir (.get keysKey) t).1 with
  | error failure => rfl
  | ok keys =>
      simp only [run_then, read_serve usernameKey username_plain]
      cases (serve here dir (.get usernameKey) t).1 <;> rfl

theorem current_serve : current.run.run (serve here dir) t =
    ((accountIn here dir t).map State.ofAccount, t) := by
  rw [current, run_then, stored_serve]
  cases accountIn here dir t <;> rfl

theorem accountIn_filed (name : Filed here dir t usernameKey name?)
    (blob : Filed here dir t keysKey keys?) :
    accountIn here dir t = .ok (ofParts (keys?.getD "") (name?.getD "")) := by
  have keysRead : (Store.get keysKey).run.run (serve here dir) t = _ := get_filed keys_plain blob
  have nameRead : (Store.get usernameKey).run.run (serve here dir) t = _ :=
    get_filed username_plain name
  simp only [accountIn, stored, run_then, keysRead, nameRead]
  rfl

theorem accountIn_reads {account? : Option Account} (reads : accountIn here dir t = .ok account?) :
    ∃ username, serve here dir (.get usernameKey) t = (.ok username, t) := by
  rw [serve_get username_plain]
  simp only [accountIn, stored, run_then, read_serve keysKey keys_plain,
    read_serve usernameKey username_plain] at reads
  cases first : (serve here dir (.get keysKey) t).1 with
  | error failure => rw [first] at reads; cases reads
  | ok keys =>
      simp only [first] at reads
      cases second : (serve here dir (.get usernameKey) t).1 with
      | error failure => rw [second] at reads; cases reads
      | ok username => exact ⟨username, rfl⟩

-- The places of the files that a directory keeps for the control.
def Own (here : List String) (dir : String) (t : Tree) (place : List String) : Prop :=
  ∃ key ∈ [usernameKey, keysKey], ∃ content, t.find here (fileOf dir key) = .ok (.file place content)

theorem own_filed {key value : String} (known : key ∈ [usernameKey, keysKey])
    (rooted : Rooted here dir key t place) (filed : Filed here dir t key (some value)) :
    Own here dir t (place ++ [key]) :=
  ⟨key, known, Text.toBytes value, by rw [rooted.find, rooted.filed.mp filed]; rfl⟩

-- Neither file is left, and nothing else is changed.
structure Cleared (here : List String) (dir : String) (t after : Tree) : Prop where
  name : Filed here dir after usernameKey none
  blob : Filed here dir after keysKey none
  beside : ∀ place, ¬Own here dir t place → after.at? place = t.at? place

theorem unlink_serve (name : Filed here dir t usernameKey (some username))
    (blob : Filed here dir t keysKey (some keys)) :
    ∃ after, unlink.run.run (serve here dir) t = (.ok ([.render], .unlinked), after) ∧
      Cleared here dir t after := by
  obtain ⟨place, keyed⟩ := filed_rooted keys_plain keys_short blob
  obtain ⟨above, named⟩ := filed_rooted username_plain username_short name
  obtain rfl : above = place := rooted_same keyed named
  have differ := places_differ above
  have first : Keeps t (t.erase (above ++ [keysKey])) := keyed.erased blob
  have still : Filed here dir (t.erase (above ++ [keysKey])) usernameKey (some username) := by
    rw [(named.kept first).filed, Tree.at?_erase_other t differ.symm]
    exact named.filed.mp name
  have second := (named.kept first).erased still
  have cleared : Cleared here dir t
      ((t.erase (above ++ [keysKey])).erase (above ++ [usernameKey])) := by
    refine ⟨?_, ?_, fun place other => ?_⟩
    · rw [((named.kept first).kept second).filed]
      exact Tree.at?_erase (by simp)
    · rw [((keyed.kept first).kept second).filed, Tree.at?_erase_other _ differ]
      exact Tree.at?_erase (by simp)
    · have notName : place ≠ above ++ [usernameKey] := fun same =>
        other (same ▸ own_filed (by simp) named name)
      have notKeys : place ≠ above ++ [keysKey] := fun same =>
        other (same ▸ own_filed (by simp) keyed blob)
      rw [Tree.at?_erase_other _ notName, Tree.at?_erase_other _ notKeys]
  have keysGone : (Store.remove keysKey).run.run (serve here dir) t = _ := keyed.removed blob
  have nameGone : (Store.remove usernameKey).run.run (serve here dir) _ = _ :=
    (named.kept first).removed still
  refine ⟨_, ?_, cleared⟩
  rw [unlink, run_then, keysGone]
  simp only [run_then, nameGone, current_serve, accountIn_filed cleared.name cleared.blob]
  rfl

-- What a user is told of a fetch that brought no keys.
def Outcome.alert? (username : String) : Outcome → Option Alert
  | .fetched body => if body = "" then some (.noKeys username) else none
  | .timedOut => some .timedOut
  | .notFound => some (.userNotFound username)
  | .failed reason => some (.requestFailed reason)

theorem conclude_rejected (rejected : outcome.alert? username = some alert) :
    conclude username outcome = pure [.alert alert] := by
  cases outcome with
  | fetched body =>
      by_cases empty : body = ""
      · simp only [Outcome.alert?, empty, if_true] at rejected
        cases rejected
        simp only [conclude, empty, if_true]
      · simp only [Outcome.alert?, empty, if_false] at rejected
        cases rejected
  | timedOut => cases rejected; rfl
  | notFound => cases rejected; rfl
  | failed reason => cases rejected; rfl

-- The state after a fetch is the one that is then read from the files.
theorem finish_serve {result : Except Failure (List Effect)}
    (concluded : (conclude username outcome).run.run (serve here dir) t = (result, after)) :
    (finish (.loading username) username outcome).run (serve here dir) t =
      (match accountIn here dir after with
        | .error failure => ⟨.loading username, .error failure⟩
        | .ok account? => ⟨State.ofAccount account?, result.map (· ++ [.render])⟩, after) := by
  simp only [finish, if_true]
  rw [run_do, concluded, run_do, current_serve]
  cases accountIn here dir after <;> rfl

-- What is not stored touches no file.
theorem finish_rejected (rejected : outcome.alert? username = some alert)
    (idle : accountIn here dir t = .ok none) :
    (finish (.loading username) username outcome).run (serve here dir) t =
      (⟨.unlinked, .ok [.alert alert, .render]⟩, t) := by
  rw [finish_serve (by rw [conclude_rejected rejected, run_pure]), idle]
  rfl

theorem conclude_fetched (full : keys ≠ "") :
    (conclude username (.fetched keys)).run.run (serve here dir) t =
      (((persist username keys).run.run (serve here dir) t).1.map fun _ => [],
       ((persist username keys).run.run (serve here dir) t).2) := by
  simp only [conclude, full, if_false]
  rw [run_then]
  rcases (persist username keys).run.run (serve here dir) t with ⟨result, after⟩
  cases result <;> rfl

-- Where keys are to be stored nobody is alerted, whether or not it succeeds.
theorem finish_unalerted {turn : Turn} {effects : List Effect} (full : keys ≠ "")
    (finished : (finish (.loading username) username (.fetched keys)).run (serve here dir) t =
      (turn, after)) (led : turn.result = .ok effects) : effects = [.render] := by
  rw [finish_serve (conclude_fetched full)] at finished
  generalize (persist username keys).run.run (serve here dir) t = written at finished
  cases reads : accountIn here dir written.2 with
  | error failure =>
      rw [reads] at finished
      cases finished
      cases led
  | ok account? =>
      rw [reads] at finished
      cases finished
      cases result : written.1 <;> rw [result] at led <;> cases led
      rfl

-- Nothing is in the way of the two files: their directory is there or can be made, and each has its
-- place in it or is there already.
structure Admits (here : List String) (dir : String) (t ready : Tree) : Prop where
  made : (Files.makeChain (chain dir)).run (Tree.answer here) t = (.ok (), ready)
  room : ∀ key ∈ [usernameKey, keysKey], ∃ (place : List String) (content? : Option (List UInt8)),
    ready.find here (fileOf dir key) = .ok (.ofEntry place (content?.map .file))

theorem admits_grows (admits : Admits here dir t ready) : Grows t ready := by
  have chained := (Tree.makeChain_run here (chain dir) t).grows
  rwa [admits.made] at chained

theorem admits_rooted (admits : Admits here dir t ready) {key : String}
    (known : key ∈ [usernameKey, keysKey]) :
    ∃ place, Rooted here dir key ready place ∧ ready.at? (place ++ [key]) ≠ some .directory := by
  have sound : isPlain key = true ∧ key.utf8ByteSize ≤ longestName := by
    rcases List.mem_pair.mp known with rfl | rfl
    · exact ⟨username_plain, username_short⟩
    · exact ⟨keys_plain, keys_short⟩
  obtain ⟨free, content?, found⟩ := admits.room key known
  obtain ⟨place, rooted⟩ := rooted_of_find sound.1 sound.2 found
  refine ⟨place, rooted, fun there => ?_⟩
  rw [rooted.find, there] at found
  cases content? <;> cases found

-- Both files are as they were asked for. Nothing else is changed, but for directories that were made.
structure Kept (here : List String) (dir username keys : String) (t after : Tree) : Prop where
  name : Filed here dir after usernameKey (some username)
  blob : Filed here dir after keysKey (some keys)
  beside : ∀ place, ¬Own here dir after place →
    after.at? place = t.at? place ∨ t.at? place = none ∧ after.at? place = some .directory

theorem written_kept (grows : Grows t ready) (named : Rooted here dir usernameKey ready place)
    (keyed : Rooted here dir keysKey ready place)
    (nameRoom : ready.at? (place ++ [usernameKey]) ≠ some .directory)
    (keysRoom : ready.at? (place ++ [keysKey]) ≠ some .directory) :
    Kept here dir username keys t
      (written (written ready place usernameKey username) place keysKey keys) := by
  have differ := places_differ place
  have keeps : Keeps ready (written (written ready place usernameKey username) place keysKey keys) :=
    Tree.keeps_trans (written_keeps nameRoom username)
      (written_keeps (by rwa [at?_written_other _ _ differ]) keys)
  have name : Filed here dir _ usernameKey (some username) := (named.kept keeps).filed.mpr
    (by rw [at?_written_other _ _ differ.symm, at?_written]; rfl)
  have blob : Filed here dir _ keysKey (some keys) := (keyed.kept keeps).filed.mpr
    (by rw [at?_written]; rfl)
  refine ⟨name, blob, fun other notOwn => ?_⟩
  have notName : other ≠ place ++ [usernameKey] := fun same =>
    notOwn (same ▸ own_filed (by simp) (named.kept keeps) name)
  have notKeys : other ≠ place ++ [keysKey] := fun same =>
    notOwn (same ▸ own_filed (by simp) (keyed.kept keeps) blob)
  rw [at?_written_other _ _ notKeys, at?_written_other _ _ notName]
  exact grows other

theorem persist_serve (username keys : String) (admits : Admits here dir t ready)
    {account? : Option Account} (reads : accountIn here dir t = .ok account?) :
    ∃ after, (persist username keys).run.run (serve here dir) t = (.ok (), after) ∧
      Kept here dir username keys t after := by
  obtain ⟨place, named, nameRoom⟩ := admits_rooted admits (show usernameKey ∈ _ by simp)
  obtain ⟨above, keyed, keysRoom⟩ := admits_rooted admits (show keysKey ∈ _ by simp)
  obtain rfl : above = place := rooted_same named keyed
  obtain ⟨previous, before⟩ := accountIn_reads reads
  have previousRead : (Store.get usernameKey).run.run (serve here dir) t = _ := before
  have nameWritten : (Store.put usernameKey username).run.run (serve here dir) t =
      (.ok (), written ready above usernameKey username) := by
    refine (serve_put username_plain admits.made).trans ?_
    rw [named.replaced nameRoom]
    rfl
  have stillRoom : (written ready above usernameKey username).at? (above ++ [keysKey]) ≠
      some .directory := by
    rwa [at?_written_other _ _ (places_differ above)]
  have keysWritten : (Store.put keysKey keys).run.run (serve here dir) _ = _ :=
    (keyed.kept (written_keeps nameRoom username)).put stillRoom
  refine ⟨_, ?_, written_kept (admits_grows admits) named keyed nameRoom keysRoom⟩
  rw [persist, run_then, previousRead]
  simp only [run_then, nameWritten, run_catch, keysWritten]

-- Keys that were fetched are stored under the name they were fetched for, and read back.
theorem finish_fetched (admits : Admits here dir t ready) (idle : accountIn here dir t = .ok none)
    (named : username ≠ "") (full : keys ≠ "") :
    ∃ after, (finish (.loading username) username (.fetched keys)).run (serve here dir) t =
      (⟨.linked username, .ok [.render]⟩, after) ∧ Kept here dir username keys t after := by
  obtain ⟨after, stored, kept⟩ := persist_serve username keys admits idle
  refine ⟨after, ?_, kept⟩
  have reads : accountIn here dir after = .ok (some ⟨username, keys⟩) := by
    rw [accountIn_filed kept.name kept.blob]
    simp [ofParts, named, full]
  rw [finish_serve (conclude_fetched full), stored, reads]
  rfl

end LinkedKeys.Control
