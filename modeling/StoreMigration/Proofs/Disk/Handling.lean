import StoreMigration.Disk.Vicinity
import StoreMigration.Proofs.Store.Database

/-! What using a file keeps of it. The engine changes what is beside a file, takes the lock
where there is none, and changes the content only by naming its journal or by putting a whole
copy in its place; so whatever is said of a file and survives these changes holds after any
use of it, wherever that broke off. -/

namespace StoreMigration

/-! ## What a handling leaves -/

namespace Handling

variable {invariant : Vicinity → Prop}

structure Ends (invariant : Vicinity → Prop) (told : α → Prop)
    (ended : Except EngineError α × Vicinity) : Prop where
  left : invariant ended.2
  answered : ∀ answer, ended.1 = .ok answer → told answer

/-- From wherever the invariant holds the handling ends where it holds. -/
def Keeps (handling : Handling α) (invariant : Vicinity → Prop) (told : α → Prop) : Prop :=
  ∀ near, invariant near → Ends invariant told (near.perform handling)

theorem keeps_pure {told : α → Prop} {answer : α} (fits : told answer) :
    Keeps (pure answer : Handling α) invariant told := by
  intro near holds
  refine ⟨holds, ?_⟩
  rintro _ ⟨⟩
  exact fits

theorem keeps_throw (error : EngineError) (told : α → Prop) :
    Keeps (throw error : Handling α) invariant told :=
  fun _ holds => ⟨holds, nofun⟩

theorem keeps_modify {change : Vicinity → Vicinity}
    (kept : ∀ near, invariant near → invariant (change near)) :
    Keeps (modify change : Handling Unit) invariant fun _ => True :=
  fun near holds => ⟨kept near holds, fun _ _ => trivial⟩

theorem keeps_get {rest : Vicinity → Handling α} {told : α → Prop}
    (each : ∀ near, invariant near → Ends invariant told (near.perform (rest near))) :
    Keeps (get >>= rest) invariant told := each

theorem perform_bind (handling : Handling α) (rest : α → Handling β) (near : Vicinity) :
    near.perform (handling >>= rest) =
      match near.perform handling with
      | (.ok answer, reached) => reached.perform (rest answer)
      | (.error error, reached) => (.error error, reached) := by
  show (ExceptT.bind handling rest).run near = _
  simp only [Vicinity.perform, ExceptT.run, ExceptT.bind, ExceptT.mk, bind, StateT.bind,
    StateT.run]
  rcases handling near with ⟨outcome, reached⟩
  cases outcome <;> rfl

theorem keeps_bind {handling : Handling α} {rest : α → Handling β} {middle : α → Prop}
    {told : β → Prop} (first : handling.Keeps invariant middle)
    (second : ∀ answer, middle answer → (rest answer).Keeps invariant told) :
    Keeps (handling >>= rest) invariant told := by
  intro near holds
  have begun := first near holds
  rw [perform_bind]
  rcases ended : near.perform handling with ⟨outcome, reached⟩
  rw [ended] at begun
  cases outcome with
  | ok answer => exact second answer (begun.answered answer rfl) reached begun.left
  | error error => exact ⟨begun.left, nofun⟩

theorem keeps_ite {condition : Prop} [Decidable condition] {first second : Handling α}
    {told : α → Prop} (holds : first.Keeps invariant told)
    (otherwise : second.Keeps invariant told) :
    Keeps (if condition then first else second) invariant told := by
  split
  · exact holds
  · exact otherwise

theorem keeps_when {condition : Prop} [Decidable condition] {first : Handling Unit}
    {rest : Unit → Handling α} {told : α → Prop} (begun : first.Keeps invariant fun _ => True)
    (further : (rest ()).Keeps invariant told) :
    Keeps (if condition then first >>= rest else rest ()) invariant told :=
  keeps_ite (keeps_bind begun fun _ _ => further) further

end Handling

namespace Vicinity

open Handling

/-- What can be said of a file in use whatever becomes of its journal, its log and its index,
whoever takes the lock, and whatever content of the kind that is found there is put there. -/
structure Lasting (invariant : Vicinity → Prop) (shows : Database → Prop) : Prop where
  beside : ∀ {near other : Vicinity}, other.content = near.content → other.lock = near.lock →
    other.isLocked = near.isLocked → invariant near → invariant other
  lock : ∀ {near : Vicinity}, near.lock = .missing → invariant near →
    invariant { near with lock := .directory, isLocked := true }
  found : ∀ {near : Vicinity} {content : Database}, near.content = some content →
    invariant near → shows content
  journaled : ∀ {content : Database} (journal : Journal), shows content →
    shows { content with journal := journal }
  replaced : ∀ {near : Vicinity} {content : Database}, shows content → invariant near →
    invariant { near with content := some content }

variable {invariant : Vicinity → Prop} {shows : Database → Prop}

/-! ## Beginning to read -/

theorem keeps_takeLock (lasting : Lasting invariant shows) :
    takeLock.Keeps invariant fun _ => True := by
  apply keeps_get
  intro near holds
  split
  · next missing => exact ⟨lasting.lock missing holds, fun _ _ => trivial⟩
  all_goals exact keeps_throw _ _ near holds

theorem keeps_settleJournal (lasting : Lasting invariant shows) (terms : Terms) :
    (settleJournal terms).Keeps invariant fun _ => True := by
  apply keeps_get
  intro near holds
  split
  · exact keeps_pure trivial near holds
  · exact keeps_pure trivial near holds
  · exact keeps_pure trivial near holds
  · exact keeps_ite (keeps_throw _ _) (keeps_pure trivial) near holds
  · have clears : Keeps (modify fun near : Vicinity => { near with journal := .missing }) invariant
        fun _ => True := keeps_modify fun _ => lasting.beside rfl rfl rfl
    exact keeps_ite (keeps_pure trivial) (keeps_when (keeps_throw _ _) clears) near holds

theorem keeps_openLog (lasting : Lasting invariant shows) (terms : Terms) :
    (openLog terms).Keeps invariant fun _ => True := by
  rw [openLog]
  apply keeps_when (keeps_throw _ _)
  apply keeps_get
  intro near holds
  have logs : Keeps (modify fun near => near.logged terms) invariant fun _ => True :=
    keeps_modify fun _ => lasting.beside rfl rfl rfl
  split
  · exact keeps_throw _ _ near holds
  · exact keeps_throw _ _ near holds
  all_goals exact logs near holds

theorem keeps_settleLog (lasting : Lasting invariant shows) (terms : Terms) :
    (settleLog terms).Keeps invariant fun _ => True := by
  apply keeps_get
  intro near holds
  split
  · exact keeps_pure trivial near holds
  · exact keeps_pure trivial near holds
  · exact keeps_pure trivial near holds
  · exact keeps_throw _ _ near holds
  · have clears : Keeps (modify fun near : Vicinity => { near with log := .missing }) invariant
        fun _ => True := keeps_modify fun _ => lasting.beside rfl rfl rfl
    exact keeps_ite clears (keeps_openLog lasting terms) near holds

theorem keeps_settle (lasting : Lasting invariant shows) (terms : Terms) :
    (settle terms).Keeps invariant fun _ => True := by
  rw [settle]
  split
  · exact keeps_bind (keeps_takeLock lasting) fun _ _ => keeps_settleLog lasting terms
  · exact keeps_bind (keeps_settleJournal lasting terms) fun _ _ => keeps_settleLog lasting terms

theorem keeps_enter (lasting : Lasting invariant shows) (terms : Terms) :
    (enter terms).Keeps invariant shows := by
  rw [enter]
  apply keeps_when (keeps_settle lasting terms)
  apply keeps_get
  intro near holds
  split
  · exact keeps_throw _ _ near holds
  · next content there =>
      have fits := lasting.found there holds
      have answers : Keeps (pure content : Handling Database) invariant shows := keeps_pure fits
      refine keeps_get (fun reached kept => ?_) near holds
      exact keeps_ite (keeps_bind (keeps_openLog lasting terms) fun _ _ => answers) answers reached
        kept

/-! ## Writing -/

theorem keeps_useJournal (lasting : Lasting invariant shows) :
    useJournal.Keeps invariant fun _ => True := by
  apply keeps_get
  intro near holds
  have clears : Keeps (modify fun near : Vicinity => { near with journal := .missing }) invariant
      fun _ => True := keeps_modify fun _ => lasting.beside rfl rfl rfl
  split
  · exact keeps_throw _ _ near holds
  · exact keeps_throw _ _ near holds
  all_goals exact clears near holds

theorem keeps_configure (lasting : Lasting invariant shows) (terms : Terms) :
    (configure terms).Keeps invariant shows := by
  apply keeps_bind (keeps_enter lasting terms)
  intro content fits
  apply keeps_get
  intro near holds
  have fitsJournaled := lasting.journaled .writeAhead fits
  have journals : Keeps (do
      useJournal
      modify fun near => { near with content := some { content with journal := .writeAhead } }
      openLog terms
      return { content with journal := .writeAhead }) invariant shows := by
    apply keeps_bind (keeps_useJournal lasting)
    intro _ _
    apply keeps_bind (keeps_modify fun _ => lasting.replaced fitsJournaled)
    intro _ _
    exact keeps_bind (keeps_openLog lasting terms) fun _ _ => keeps_pure fitsJournaled
  exact keeps_ite (keeps_when (keeps_throw _ _) journals) (keeps_pure fits) near holds

theorem keeps_overwrite (lasting : Lasting invariant shows) (terms : Terms) {copy : Database}
    (fits : shows copy) : (overwrite terms copy).Keeps invariant fun _ => True := by
  rw [overwrite]
  apply keeps_when (keeps_throw _ _)
  apply keeps_bind (keeps_enter lasting terms)
  intro _ _
  apply keeps_get
  intro near holds
  have logs : Keeps (modify fun near : Vicinity =>
      { near with content := some { copy with journal := .writeAhead }, log := .full }) invariant
        fun _ => True := by
    apply keeps_modify
    intro reached holds
    have replaced := lasting.replaced (lasting.journaled .writeAhead fits) holds
    refine lasting.beside ?_ ?_ ?_ replaced <;> rfl
  have writes : Keeps (do
      useJournal
      modify fun near : Vicinity => { near with content := some copy }) invariant fun _ => True :=
    keeps_bind (keeps_useJournal lasting) fun _ _ => keeps_modify fun _ => lasting.replaced fits
  exact keeps_when (keeps_throw _ _) (keeps_ite logs writes) near holds

/-! ## What lasts -/

def texts? (near : Vicinity) : Option (Objects String) := near.content.map Database.texts

theorem lasting_texts (objects : Option (Objects String)) :
    Lasting (fun near => near.texts? = objects) fun content => objects = some content.texts where
  beside content _ _ holds := by rw [← holds, texts?, texts?, content]
  lock _ holds := holds
  found there holds := by rw [← holds, texts?, there]; rfl
  journaled _ fits := fits
  replaced fits _ := fits.symm

theorem lasting_lock {lock : Companion} (held : lock ≠ .missing) :
    Lasting (fun near => near.lock = lock ∧ near.isLocked = false) fun _ => True where
  beside _ same locked holds := ⟨same.trans holds.1, locked.trans holds.2⟩
  lock missing holds := absurd (holds.1.symm.trans missing) held
  found _ _ := trivial
  journaled _ _ := trivial
  replaced _ holds := holds

end Vicinity

end StoreMigration
