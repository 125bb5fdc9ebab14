import Mathlib.Data.List.Forall2
import CompilerDriver.Report.Document

/-!
What has a document form. A document is text, so whatever holds a path that is not text has none; a
single path of that kind is enough, and nothing else stands in the way.
-/

namespace CompilerDriver

section Lists

variable {Item Form : Type} {form? : Item → Option Form}

theorem forall₂_of_mapM {items : List Item} {forms : List Form}
    (formed : items.mapM form? = some forms) :
    List.Forall₂ (fun item form => form? item = some form) items forms := by
  induction items generalizing forms with
  | nil =>
      cases formed
      exact .nil
  | cons first rest ih =>
      rw [List.mapM_cons] at formed
      obtain ⟨head, headed, formed⟩ := Option.bind_eq_some_iff.mp formed
      obtain ⟨tail, tailed, formed⟩ := Option.bind_eq_some_iff.mp formed
      cases formed
      exact .cons headed (ih tailed)

theorem mapM_eq_none_iff {items : List Item} :
    items.mapM form? = none ↔ ∃ item ∈ items, form? item = none := by
  induction items with
  | nil => simp
  | cons first rest ih =>
      rw [List.mapM_cons, List.exists_mem_cons_iff, ← ih]
      cases form? first with
      | none => simp
      | some form => cases rest.mapM form? <;> simp

end Lists

def Toolchain.paths (toolchain : Toolchain) : List Path :=
  [toolchain.root, toolchain.host, toolchain.shim, toolchain.node, toolchain.launcher]

theorem Toolchain.toJson?_eq_none_iff {toolchain : Toolchain} :
    toolchain.toJson? = none ↔ ∃ path ∈ toolchain.paths, path.text? = none := by
  unfold toJson? paths
  simp only [List.exists_mem_cons_iff]
  cases toolchain.root.text? <;> cases toolchain.host.text? <;> cases toolchain.shim.text? <;>
    cases toolchain.node.text? <;> cases toolchain.launcher.text? <;> simp

namespace Configuration

def paths (configuration : Configuration) : List Path :=
  configuration.bootstrapSource.toList ++ configuration.compilerImage.toList ++
    configuration.inputs ++ configuration.toolchain.paths

theorem pathJson?_eq_none_iff {path : Option Path} :
    pathJson? path = none ↔ ∃ present ∈ path.toList, present.text? = none := by
  cases path with
  | none => simp [pathJson?]
  | some path => simp [pathJson?]

theorem toJson?_eq_none_iff {configuration : Configuration} :
    configuration.toJson? = none ↔ ∃ path ∈ configuration.paths, path.text? = none := by
  unfold paths
  simp only [List.mem_append, or_and_right, exists_or]
  rw [← pathJson?_eq_none_iff, ← pathJson?_eq_none_iff, ← mapM_eq_none_iff,
    ← Toolchain.toJson?_eq_none_iff]
  unfold toJson?
  cases pathJson? configuration.bootstrapSource <;>
    cases pathJson? configuration.compilerImage <;>
    cases configuration.inputs.mapM Path.text? <;>
    cases configuration.toolchain.toJson? <;> simp

end Configuration

end CompilerDriver
