import StoreMigration.Proofs.Disk.Handling

/-! Opening a file on the terms of a text that is just a path: it may be made and written, and
its users share memory. Whatever was left beside the file, if it can be opened for writing at
all then its log is in use from then on (`opened_of_ok`), and once it is closed what is beside
it does not stand in the way of opening it again (`clear_of_closed`, `configure_of_clear`). -/

namespace StoreMigration

def Terms.usual : Terms := ⟨.creating, .memory⟩

namespace Vicinity

variable {near after : Vicinity} {content : Database} {told : Unit}

theorem of_bind_ok (handling : Handling α) {rest : α → Handling β} {answer : β}
    (went : near.perform (handling >>= rest) = (.ok answer, after)) :
    ∃ first middle, near.perform handling = (.ok first, middle) ∧
      middle.perform (rest first) = (.ok answer, after) := by
  rw [Handling.perform_bind] at went
  rcases began : near.perform handling with ⟨outcome, middle⟩
  rw [began] at went
  cases outcome with
  | ok first => exact ⟨first, middle, rfl, went⟩
  | error error => cases went

theorem perform_get (rest : Vicinity → Handling α) (near : Vicinity) :
    near.perform (get >>= rest) = near.perform (rest near) := rfl

/-! ## The parts of opening -/

theorem perform_settleJournal (near : Vicinity) :
    near.perform (settleJournal .usual) =
      match near.journal with
      | .missing | .empty | .unnameable => (.ok (), near)
      | .directory => if near.isBlank then (.ok (), near) else (.error (.diskFailed .reading), near)
      | .full => (.ok (), { near with journal := .missing }) := by
  have writable : ∀ blank : Bool, (blank && Terms.usual.isReadOnly) = false := Bool.and_false
  rw [settleJournal, perform_get]
  cases near.journal with
  | missing | empty | unnameable => rfl
  | directory => cases near.isBlank <;> rfl
  | full =>
      simp only [writable]
      rfl

theorem perform_openLog (near : Vicinity) :
    near.perform (openLog .usual) =
      match near.log with
      | .directory | .unnameable => (.error .cannotOpen, near)
      | .missing | .empty | .full => (.ok (), near.logged .usual) := by
  show near.perform (get >>= _) = _
  rw [perform_get]
  cases near.log with
  | missing | empty | full | directory | unnameable => rfl

theorem perform_settleLog (near : Vicinity) :
    near.perform (settleLog .usual) =
      match near.log with
      | .missing | .empty | .unnameable => (.ok (), near)
      | .directory => (.error (if near.isBlank then .diskFailed .deleting else .cannotOpen), near)
      | .full =>
          if near.isBlank then (.ok (), { near with log := .missing })
          else (.ok (), near.logged .usual) := by
  rw [settleLog, perform_get]
  cases there : near.log with
  | missing | empty | directory | unnameable => rfl
  | full =>
      cases near.isBlank with
      | true => rfl
      | false =>
          show near.perform (openLog .usual) = _
          rw [perform_openLog, there]
          rfl

theorem perform_useJournal (near : Vicinity) :
    near.perform useJournal =
      match near.journal with
      | .directory | .unnameable => (.error .cannotOpen, near)
      | .missing | .empty | .full => (.ok (), { near with journal := .missing }) := by
  rw [useJournal, perform_get]
  cases near.journal with
  | missing | empty | full | directory | unnameable => rfl

/-- Once the journal is seen to, nothing is in it; a directory in its place bothers only a file
that something was written to. -/
theorem settledJournal_of_ok (went : near.perform (settleJournal .usual) = (.ok told, after)) :
    ∃ journal, after = { near with journal := journal } ∧ journal ≠ .full ∧
      (journal = .directory ∨ near.journal = .directory →
        journal = near.journal ∧ near.isBlank = true) ∧
      (journal = .unnameable → near.journal = .unnameable) := by
  rw [perform_settleJournal] at went
  split at went
  · next there => cases went; exact ⟨near.journal, rfl, by simp [there]⟩
  · next there => cases went; exact ⟨near.journal, rfl, by simp [there]⟩
  · next there => cases went; exact ⟨near.journal, rfl, by simp [there]⟩
  · next there =>
      split at went
      · next blank => cases went; exact ⟨near.journal, rfl, by simp [there, blank]⟩
      · cases went
  · next there => cases went; exact ⟨.missing, rfl, by simp [there]⟩

theorem settledLog_of_ok (went : near.perform (settleLog .usual) = (.ok told, after)) :
    near.log ≠ .directory ∧
      ((∃ log, after = { near with log := log }) ∨
        near.log = .full ∧ near.isBlank = false ∧ after = near.logged .usual) := by
  rw [perform_settleLog] at went
  split at went
  · next there => cases went; exact ⟨by simp [there], .inl ⟨near.log, rfl⟩⟩
  · next there => cases went; exact ⟨by simp [there], .inl ⟨near.log, rfl⟩⟩
  · next there => cases went; exact ⟨by simp [there], .inl ⟨near.log, rfl⟩⟩
  · cases went
  · next there =>
      split at went
      · cases went
        exact ⟨by simp [there], .inl ⟨.missing, rfl⟩⟩
      · next written =>
          cases went
          exact ⟨by simp [there], .inr ⟨there, Bool.eq_false_iff.mpr written, rfl⟩⟩

theorem openedLog_of_ok (went : near.perform (openLog .usual) = (.ok told, after)) :
    (near.log ≠ .directory ∧ near.log ≠ .unnameable) ∧ after = near.logged .usual := by
  rw [perform_openLog] at went
  split at went
  · cases went
  · cases went
  all_goals
    next there =>
      cases went
      exact ⟨by simp [there], rfl⟩

theorem usedJournal_of_ok (went : near.perform useJournal = (.ok told, after)) :
    near.journal ≠ .directory ∧ after = { near with journal := .missing } := by
  rw [perform_useJournal] at went
  split at went
  · cases went
  · cases went
  all_goals
    next there =>
      cases went
      exact ⟨by simp [there], rfl⟩

theorem entered_of_ok (went : near.perform (enter .usual) = (.ok content, after)) :
    ∃ told middle, near.perform (settle .usual) = (.ok told, middle) ∧
      middle.content = some content ∧
      (after = middle ∨ content.journal = .writeAhead ∧ middle.isLogged = false ∧
        ∃ told, middle.perform (openLog .usual) = (.ok told, after)) := by
  rcases of_bind_ok (settle .usual) went with ⟨told, middle, settles, shows⟩
  refine ⟨told, middle, settles, ?_⟩
  rw [perform_get] at shows
  split at shows
  · cases shows
  · next found there =>
      rw [perform_get] at shows
      cases mode : found.journal with
      | rollback =>
          rw [mode] at shows
          cases shows
          exact ⟨there, .inl rfl⟩
      | writeAhead =>
          cases logged : middle.isLogged with
          | true =>
              rw [mode, logged] at shows
              cases shows
              exact ⟨there, .inl rfl⟩
          | false =>
              rw [mode, logged] at shows
              rcases of_bind_ok (openLog .usual) shows with ⟨told, reached, opens, last⟩
              cases last
              exact ⟨there, .inr ⟨mode, rfl, told, opens⟩⟩

theorem configured_of_ok (went : near.perform (configure .usual) = (.ok content, after)) :
    ∃ found middle, near.perform (enter .usual) = (.ok found, middle) ∧
      (middle.isLogged = true ∧ content = found ∧ after = middle ∨
        middle.isLogged = false ∧ middle.journal ≠ .directory ∧
          (middle.log ≠ .directory ∧ middle.log ≠ .unnameable) ∧
          after = ({ middle with journal := .missing, content := some content } : Vicinity).logged
            .usual) := by
  rcases of_bind_ok _ went with ⟨found, middle, enters, further⟩
  refine ⟨found, middle, enters, ?_⟩
  rw [perform_get] at further
  cases logged : middle.isLogged with
  | true =>
      rw [logged] at further
      cases further
      exact .inl ⟨rfl, rfl, rfl⟩
  | false =>
      rw [logged] at further
      rcases of_bind_ok useJournal further with ⟨_, cleared, clears, further⟩
      rcases usedJournal_of_ok clears with ⟨free, rfl⟩
      rcases of_bind_ok (modify _) further with ⟨_, written, writes, further⟩
      cases writes
      rcases of_bind_ok (openLog .usual) further with ⟨_, last, opens, ends⟩
      rcases openedLog_of_ok opens with ⟨loggable, rfl⟩
      cases ends
      exact .inr ⟨rfl, free, loggable, rfl⟩

/-! ## What is beside an opened file -/

structure Opened (near after : Vicinity) (content : Database) : Prop where
  shown : after.content = some content
  logged : after.isLogged = true
  log : after.log = .empty ∨ after.log = .full
  journal : after.journal = .missing ∨ after.journal = .empty ∨
    after.journal = .unnameable ∧ near.journal = .unnameable
  index : near.index = .directory ∧ after.index = .directory ∨
    near.index ≠ .directory ∧ after.index = .full
  lock : after.lock = near.lock ∧ after.isLocked = near.isLocked
  free : near.journal ≠ .directory ∧ near.log ≠ .directory

theorem opened_of_logged {middle : Vicinity} (shown : middle.content = some content)
    (journal : middle.journal = .missing ∨ middle.journal = .empty ∨
      middle.journal = .unnameable ∧ near.journal = .unnameable)
    (loggable : middle.log ≠ .directory ∧ middle.log ≠ .unnameable)
    (index : middle.index = near.index)
    (lock : middle.lock = near.lock ∧ middle.isLocked = near.isLocked)
    (free : near.journal ≠ .directory ∧ near.log ≠ .directory) :
    Opened near (middle.logged .usual) content where
  shown := shown
  logged := rfl
  log := by
    rw [logged]
    cases there : middle.log with
    | missing => exact .inl rfl
    | empty => exact .inl rfl
    | full => exact .inr rfl
    | directory => exact absurd there loggable.1
    | unnameable => exact absurd there loggable.2
  journal := journal
  index := by
    have indexFile : Terms.usual.hasIndexFile = true := rfl
    by_cases there : near.index = .directory
    · exact .inl ⟨there, by simp [logged, index, there]⟩
    · exact .inr ⟨there, by simp [logged, index, indexFile, there]⟩
  lock := lock
  free := free

theorem not_blank_of_writeAhead (shown : near.content = some content)
    (mode : content.journal = .writeAhead) : near.isBlank = false := by
  simp [isBlank, shown, Database.isBlank, mode]

theorem opened_of_ok (unlogged : near.isLogged = false)
    (went : near.perform (configure .usual) = (.ok content, after)) : Opened near after content := by
  rcases configured_of_ok went with ⟨found, middle, enters, ended⟩
  rcases entered_of_ok enters with ⟨_, settled, settles, there, logs⟩
  rcases of_bind_ok (settleJournal .usual) settles with ⟨_, journaled, first, second⟩
  rcases settledJournal_of_ok first with ⟨journal, rfl, notFull, blankOf, named⟩
  have freeOf : near.isBlank = false → near.journal ≠ .directory ∧
      (journal = .missing ∨ journal = .empty ∨ journal = .unnameable ∧ near.journal = .unnameable) := by
    intro written
    have free : ¬ (journal = .directory ∨ near.journal = .directory) := fun blocked =>
      absurd (blankOf blocked).2 (by simp [written])
    refine ⟨fun blocked => free (.inr blocked), ?_⟩
    cases there : journal with
    | missing => exact .inl rfl
    | empty => exact .inr (.inl rfl)
    | unnameable => exact .inr (.inr ⟨rfl, named there⟩)
    | full => exact absurd there notFull
    | directory => exact absurd (.inl there) free
  -- The log was left behind, or the file says that it is used, or it is used from now on.
  rcases settledLog_of_ok second with ⟨noLog, ⟨log, rfl⟩ | ⟨full, written, rfl⟩⟩
  · rcases logs with rfl | ⟨mode, _, _, opens⟩
    · rcases ended with ⟨logged, _, _⟩ | ⟨_, free, loggable, rfl⟩
      · exact absurd (unlogged.symm.trans logged) (by decide)
      · have freeBefore : near.journal ≠ .directory := fun blocked =>
          free ((blankOf (.inr blocked)).1.trans blocked)
        exact opened_of_logged rfl (.inl rfl) loggable rfl ⟨rfl, rfl⟩ ⟨freeBefore, noLog⟩
    · rcases openedLog_of_ok opens with ⟨loggable, rfl⟩
      rcases freeOf (not_blank_of_writeAhead there mode) with ⟨free, left⟩
      rcases ended with ⟨_, rfl, rfl⟩ | ⟨unlogged, _⟩
      · exact opened_of_logged there left loggable rfl ⟨rfl, rfl⟩ ⟨free, noLog⟩
      · cases unlogged
  · rcases freeOf written with ⟨free, left⟩
    have loggable : near.log ≠ .directory ∧ near.log ≠ .unnameable := by
      have left : near.log = .full := full
      simp [left]
    rcases logs with rfl | ⟨_, unlogged, _⟩
    · rcases ended with ⟨_, rfl, rfl⟩ | ⟨unlogged, _⟩
      · exact opened_of_logged there left loggable rfl ⟨rfl, rfl⟩ ⟨free, noLog⟩
      · cases unlogged
    · cases unlogged

theorem index_of_unrefused (opened : Opened near after content)
    (free : after.refusal .usual = none) : near.index ≠ .directory ∧ after.index = .full := by
  rcases opened.index with ⟨_, blocked⟩ | unblocked
  · simp [refusal, isFrozen, opened.logged, blocked, Terms.usual] at free
  · exact unblocked

theorem keep_of_opened (opened : Opened near after content) (free : after.refusal .usual = none)
    (unlocked : near.isLocked = false) (left : Database) :
    ∃ log, (log = .empty ∨ log = .full) ∧
      after.keep left = ⟨some left, after.journal, log, .full, near.lock, true, false⟩ := by
  have indexed := (index_of_unrefused opened free).2
  rcases after with ⟨shown, journal, log, index, lock, isLogged, isLocked⟩
  rcases opened with ⟨_, rfl, log, _, _, ⟨rfl, locked⟩, _⟩
  cases indexed
  cases locked.trans unlocked
  rw [keep]
  split
  · next same =>
      cases same
      exact ⟨_, log, rfl⟩
  · exact ⟨.full, .inr rfl, rfl⟩

theorem close_of_opened (opened : Opened near after content) (free : after.refusal .usual = none)
    (unlocked : near.isLocked = false) (left : Database) :
    (after.keep left).close .usual =
      ⟨some left, after.journal, .missing, .missing, near.lock, false, false⟩ := by
  rcases keep_of_opened opened free unlocked left with ⟨log, rfl | rfl, kept⟩
  · rw [kept]
    rfl
  · rw [kept]
    rfl

/-! ## Opening a file again -/

/-- Nothing beside the file stands in the way of opening it for writing. -/
structure Clear (near : Vicinity) : Prop where
  journal : near.journal = .missing ∨ near.journal = .empty
  log : near.log = .missing
  index : near.index ≠ .directory
  unlogged : near.isLogged = false

theorem clear_of_closed (opened : Opened near after content) (free : after.refusal .usual = none)
    (unlocked : near.isLocked = false) (nameable : near.journal ≠ .unnameable) (left : Database) :
    ((after.keep left).close .usual).Clear := by
  rw [close_of_opened opened free unlocked left]
  refine ⟨?_, rfl, nofun, rfl⟩
  rcases opened.journal with missing | empty | ⟨_, unnameable⟩
  · exact .inl missing
  · exact .inr empty
  · exact absurd unnameable nameable

theorem configure_of_clear (clear : near.Clear) (shown : near.content = some content) :
    ∃ after, near.perform (configure .usual) = (.ok { content with journal := .writeAhead }, after) ∧
      after.refusal .usual = none := by
  rcases near with ⟨there, journal, log, index, lock, isLogged, isLocked⟩
  rcases clear with ⟨quiet, noLog, indexed, unlogged⟩
  rcases content with ⟨layouts, tables, mode⟩
  simp only at quiet noLog indexed unlogged shown
  subst noLog unlogged shown
  cases index with
  | directory => exact absurd rfl indexed
  | missing | empty | full | unnameable =>
      rcases quiet with rfl | rfl
      all_goals
        cases mode with
        | rollback => exact ⟨_, rfl, rfl⟩
        | writeAhead => exact ⟨_, rfl, rfl⟩

end Vicinity

end StoreMigration
