import StoreMigration.Migration.Error
import StoreMigration.Store.Program

/-! Steps of a migration: named programs over the store. Steps are run again when a
migration is retried, so running one twice in a row has to leave the store as
running it once does. -/

namespace StoreMigration

structure Step where
  name : String
  body : Action StepError Unit

namespace Step

def ofStore (name : String) (body : Action StoreError Unit) : Step :=
  ⟨name, body.withError .store⟩

def failing (name : String) (error : StepError) : Step :=
  ⟨name, throw error⟩

def rejectUnsupportedName : String := "reject_unsupported_schema"

def rejectUnsupported : Step :=
  failing rejectUnsupportedName (.migration .tooOld)

/-- What a step looks like in diagnostic output: its body is not shown. -/
def describe (step : Step) : String :=
  "MigrationStep \x7b name: " ++ Text.quoted step.name ++ ", .. \x7d"

/-- Remove one key; it need not be there. -/
def deleteKey (name bucket key : String) : Step :=
  ofStore name do
    Action.ensureBucket bucket
    Action.delete bucket key

end Step

end StoreMigration
