import CompilerDriver.Proofs.Run.Reach
import Mathlib.Data.List.Forall2

/-!
What the history of a batch fixes. The calls are those that can be planned from the input files
alone, and every place in the window, finished or not, is accounted for by the stay of its file and
by what the runner replied to its call.
-/

namespace CompilerDriver.Run

variable {configuration : Configuration} {image : Path} {runner : Runner} {first : World}

/-- The calls that files will make, numbered on from an index; a file whose target has no name makes
none. -/
def plannedCalls (configuration : Configuration) (image : Path) :
    Nat → List Path → List (Option Call)
  | _, [] => []
  | index, file :: rest =>
      match Template.outputFor configuration.template file with
      | .ok _ =>
          some
            { index := index
              attached := false
              command := compileCommand configuration image file } ::
            plannedCalls configuration image (index + 1) rest
      | .error _ => none :: plannedCalls configuration image index rest

@[simp] theorem plannedCalls_nil (index : Nat) :
    plannedCalls configuration image index [] = [] := rfl

theorem plannedCalls_of_unnamed {file : Path} {error : TemplateError}
    (unnamed : Template.outputFor configuration.template file = .error error)
    (index : Nat) (rest : List Path) :
    plannedCalls configuration image index (file :: rest) =
      none :: plannedCalls configuration image index rest := by
  simp only [plannedCalls, unnamed]

theorem plannedCalls_of_named {file : Path} {target : Target}
    (named : Template.outputFor configuration.template file = .ok target)
    (index : Nat) (rest : List Path) :
    plannedCalls configuration image index (file :: rest) =
      some
        { index := index
          attached := false
          command := compileCommand configuration image file } ::
        plannedCalls configuration image (index + 1) rest := by
  simp only [plannedCalls, named]

def compileCommands (configuration : Configuration) (image : Path) (files : List Path) :
    List Command :=
  files.filterMap fun file =>
    match Template.outputFor configuration.template file with
    | .ok _ => some (compileCommand configuration image file)
    | .error _ => none

theorem plannedCalls_commands (index : Nat) (files : List Path) :
    ((plannedCalls configuration image index files).filterMap id).map Call.command =
      compileCommands configuration image files := by
  induction files generalizing index with
  | nil => rfl
  | cons file rest ih =>
      unfold compileCommands at ih ⊢
      cases named : Template.outputFor configuration.template file with
      | error error =>
          rw [plannedCalls_of_unnamed named, List.filterMap_cons]
          simp only [List.filterMap_cons, named]
          exact ih index
      | ok target =>
          rw [plannedCalls_of_named named, List.filterMap_cons]
          simp only [List.filterMap_cons, named]
          exact congrArg (List.cons _) (ih (index + 1))

def flying (runner : Runner) (file : Path) (target : Target) (time : Nat) (call : Call)
    (tree : FileTree) : Compiling :=
  { file := file
    target := target
    flight :=
      { index := call.index
        finish := time + (runner call tree).duration
        answer := (runner call tree).answer
        closing := (runner call tree).closing } }

/-- A place in the window is what the stay of its file has made of it. -/
inductive Traced (configuration : Configuration) (runner : Runner) : Stay → Slot → Prop where
  | refused {file time error}
      (unnamed : Template.outputFor configuration.template file = .error error) :
      Traced configuration runner { file := file, time := time } (.finished (refusal file error))
  | compiling {file time call tree target}
      (named : Template.outputFor configuration.template file = .ok target) :
      Traced configuration runner { file := file, time := time, launch? := some (call, tree) }
        (.compiling (flying runner file target time call tree))
  | landed {file time call tree target} (later : FileTree)
      (named : Template.outputFor configuration.template file = .ok target) :
      Traced configuration runner { file := file, time := time, launch? := some (call, tree) }
        (.finished (close configuration file target (runner call tree).answer later).report)

theorem Traced.land {stay : Stay} {step : Compiling}
    (traced : Traced configuration runner stay (.compiling step)) (world : World) :
    Traced configuration runner stay (.finished (endCompile configuration step world).1) := by
  rw [endCompile_eq]
  cases traced with
  | compiling named => exact .landed world.tree named

def Batch.slots (batch : Batch) : List Slot :=
  batch.done.map .finished ++ batch.window

theorem forall₂_replace {α β : Type} {relation : α → β → Prop} {items : List α}
    {front back : List β} {old new : β}
    (related : List.Forall₂ relation items (front ++ old :: back))
    (kept : ∀ item, relation item old → relation item new) :
    List.Forall₂ relation items (front ++ new :: back) := by
  induction front generalizing items with
  | nil =>
      cases related with
      | cons head tail => exact .cons (kept _ head) tail
  | cons slot rest ih =>
      cases related with
      | cons head tail => exact .cons head (ih tail)

theorem Reached.traced {batch : Batch} {stays : List Stay}
    (reached : Reached configuration image runner first batch stays) :
    List.Forall₂ (Traced configuration runner) stays batch.slots := by
  induction reached with
  | start => exact .nil
  | @leave world done report window waiting stays before ih =>
      simpa [Batch.slots] using ih
  | @refuse world done window file waiting stays error before unsettled room unnamed ih =>
      change List.Forall₂ _ _ (done.map _ ++ (window ++ [_]))
      rw [← List.append_assoc]
      exact List.rel_append ih (.cons (.refused unnamed) .nil)
  | @launch world done window file waiting stays target before unsettled room named ih =>
      change List.Forall₂ _ _ (done.map _ ++ (window ++ [_]))
      rw [← List.append_assoc]
      exact List.rel_append ih (.cons (.compiling named) .nil)
  | @land world done front step back waiting stays before due ih =>
      change List.Forall₂ _ _ (done.map _ ++ (front ++ _ :: back)) at ih ⊢
      rw [← List.append_assoc] at ih ⊢
      exact forall₂_replace ih fun stay traced => traced.land world

theorem Reached.files {batch : Batch} {stays : List Stay}
    (reached : Reached configuration image runner first batch stays) :
    stays.map Stay.file ++ batch.waiting = configuration.inputs := by
  induction reached with
  | start => rfl
  | leave before ih => exact ih
  | refuse before unsettled room unnamed ih => simpa using ih
  | launch before unsettled room named ih => simpa using ih
  | land before due ih => exact ih

theorem Reached.calls {batch : Batch} {stays : List Stay}
    (reached : Reached configuration image runner first batch stays) :
    stays.map Stay.call? ++ plannedCalls configuration image batch.world.calls batch.waiting =
      plannedCalls configuration image first.calls configuration.inputs := by
  induction reached with
  | start => rfl
  | leave before ih => exact ih
  | @refuse world done window file waiting stays error before unsettled room unnamed ih =>
      rw [plannedCalls_of_unnamed unnamed] at ih
      rw [← ih, List.map_append, List.append_assoc]
      rfl
  | @launch world done window file waiting stays target before unsettled room named ih =>
      rw [plannedCalls_of_named named] at ih
      rw [← ih, List.map_append, List.append_assoc]
      rfl
  | @land world done front step back waiting stays before due ih =>
      rw [endCompile_eq]
      exact ih

def Stay.start? (stay : Stay) : Option (Nat × Call) :=
  stay.call?.map fun call => (stay.time, call)

theorem starts_calls (stays : List Stay) :
    (stays.filterMap Stay.start?).map Prod.snd = stays.filterMap Stay.call? := by
  rw [List.map_filterMap]
  congr 1
  funext stay
  unfold Stay.start?
  rw [Option.map_map]
  exact Option.map_id'

theorem Reached.starts {batch : Batch} {stays : List Stay}
    (reached : Reached configuration image runner first batch stays) :
    batch.world.starts = first.starts ++ stays.filterMap Stay.start? := by
  induction reached with
  | start => exact (List.append_nil _).symm
  | leave before ih => exact ih
  | refuse before unsettled room unnamed ih =>
      rw [List.filterMap_append, ih]
      simp [Stay.start?, Stay.call?]
  | @launch world done window file waiting stays target before unsettled room named ih =>
      change Event.starts (world.trace ++ _) = _
      rw [Event.starts_append, starts_openingEvents, List.filterMap_append, ← List.append_assoc,
        ← ih]
      rfl
  | @land world done front step back waiting stays before due ih =>
      rw [endCompile_eq]
      change Event.starts (world.trace ++ _) = _
      rw [Event.starts_append, starts_closingEvents, List.append_nil]
      exact ih

end CompilerDriver.Run
