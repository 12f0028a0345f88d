import Mathlib.Data.List.Forall2
import ScenarioRunner.Proofs.Message.Flattened
import ScenarioRunner.Scheme.Resolver

namespace ScenarioRunner

/-- What happens while a message file is in use: messages are looked up, and in between the disk is
changed, be it that files are written, spoiled or removed. -/
inductive FileEvent where
  | edit (change : FileTree → FileTree)
  | lookUp (key : String) (params : Params)

/-- A lookup with the disk as it is at that time. -/
structure DatedLookUp where
  disk : FileTree
  key : String
  params : Params

namespace FileEvent

def lookUps (disk : FileTree) : List FileEvent → List DatedLookUp
  | [] => []
  | edit change :: rest => lookUps (change disk) rest
  | lookUp key params :: rest => ⟨disk, key, params⟩ :: lookUps disk rest

end FileEvent

/-- The file cannot be read, or is not valid JSON. -/
inductive LoadFails (disk : FileTree) (path : SourcePath) : MessageError → Prop
  | unreadable {failure : ReadFailure} : disk.readText path = .error failure →
    LoadFails disk path (.unreadable path failure)
  | invalid {text : String} : disk.readText path = .ok text → JsonValue.read? text = none →
    LoadFails disk path (.invalidFile path)

namespace MessageFile

variable {file : MessageFile} {disk : FileTree}

theorem fails_of_load {error : MessageError} (fails : file.load disk = .error error) :
    LoadFails disk file.path error := by
  unfold load at fails
  split at fails
  · rename_i failure read
    cases fails
    exact .unreadable read
  · rename_i text read
    split at fails
    · rename_i parsed
      cases fails
      exact .invalid read parsed
    · cases fails

end MessageFile

namespace SchemeHandler

/-- What a handler answers while things happen, and the handler that comes of it. -/
def answers (handler : SchemeHandler) (disk : FileTree) :
    List FileEvent → List (Except (List String) Value) × SchemeHandler
  | [] => ([], handler)
  | .edit change :: rest => handler.answers (change disk) rest
  | .lookUp key params :: rest =>
    let answered := handler.resolve disk key params
    let later := answered.2.answers disk rest
    (returned answered.1 :: later.1, later.2)

/-- A handler whose file has not been read. -/
def unread (path : SourcePath) : SchemeHandler := messageFile ⟨path, none⟩

/-- Every lookup has failed to load the file as it was then, and none has left anything behind. -/
structure StaysUnread (path : SourcePath) (disk : FileTree) (events : List FileEvent) : Prop where
  refused : List.Forall₂ (fun dated answer =>
      ∃ error, LoadFails dated.disk path error ∧ answer = .error error.causes)
    (FileEvent.lookUps disk events) ((unread path).answers disk events).1
  unloaded : ∀ front, front <+: events → ((unread path).answers disk front).2 = unread path

section

variable {path : SourcePath} {disk : FileTree} {key : String} {params : Params}

theorem resolve_unread_of_fails {error : MessageError}
    (fails : (⟨path, none⟩ : MessageFile).load disk = .error error) :
    (unread path).resolve disk key params = (.ok (.error error.causes), unread path) := by
  simp only [unread, resolve, MessageFile.lookUp, fails]
  rfl

theorem StaysUnread.edit {change : FileTree → FileTree} {rest : List FileEvent}
    (later : StaysUnread path (change disk) rest) :
    StaysUnread path disk (.edit change :: rest) := by
  refine ⟨later.refused, fun front within => ?_⟩
  rcases List.prefix_cons_iff.mp within with rfl | ⟨front, rfl, inside⟩
  · rfl
  · exact later.unloaded front inside

theorem StaysUnread.lookUp {error : MessageError} {rest : List FileEvent}
    (fails : (⟨path, none⟩ : MessageFile).load disk = .error error)
    (later : StaysUnread path disk rest) : StaysUnread path disk (.lookUp key params :: rest) := by
  constructor
  · rw [answers, resolve_unread_of_fails fails]
    exact .cons ⟨error, MessageFile.fails_of_load fails, rfl⟩ later.refused
  · intro front within
    rcases List.prefix_cons_iff.mp within with rfl | ⟨front, rfl, inside⟩
    · rfl
    · rw [answers, resolve_unread_of_fails fails]
      exact later.unloaded front inside

/-- The file is missing, then written, then removed. -/
example : ((unread ⟨"m"⟩).answers {} [.lookUp "a" .empty,
      .edit (·.write ⟨"m"⟩ (.file "\x7b\"a\": \"x\"\x7d".toUTF8)), .lookUp "b" .empty,
      .edit (·.remove ⟨"m"⟩), .lookUp "a" .empty]).1.map (·.toOption.map Value.text) =
    [none, none, some "x"] := by decide +kernel

end

end SchemeHandler

end ScenarioRunner
